import Mathlib.Data.List.Nodup
import ScriptFeatures.Proofs.Usage.Keys
import ScriptFeatures.Proofs.Usage.Parts

namespace ScriptFeatures

open Syntax (Node Span)

namespace Usage

/-- The expression is an access to the member `property` of `object`, alone or in an optional
chain, and within any number of parentheses. -/
inductive Accesses (object property : Node) : Node → Prop where
  | member (span : Span) : Accesses object property (.member span object property)
  | optionalChain (span place : Span) (isOptional : Bool) :
      Accesses object property (.optionalChain span isOptional (.member place object property))
  | parenthesized (span : Span) {e : Node} :
      Accesses object property e → Accesses object property (.parenthesized span e)

/-- The property spells out the name, after a dot or as a string in brackets. -/
inductive Spells (name : String) : Node → Prop where
  | name (span : Span) : Spells name (.propertyName span name)
  | literal (span place : Span) (raw : Option String) :
      Spells name (.index span (.stringLiteral place name raw))

/-- The receiver is the name of a built-in object whose function of this name shows the key. -/
inductive IsBuiltinFunction (name key : String) : Node → Prop where
  | mk (span : Span) (receiver : String) (names : List String) :
      (receiver, names, key) ∈ builtinFunctions → name ∈ names →
      IsBuiltinFunction name key (.identifier span receiver)

section Tables

theorem pairwise_builtinFunctions :
    builtinFunctions.Pairwise fun row row' => row.1 = row'.1 → ∀ name ∈ row.2.1, name ∉ row'.2.1 := by
  decide +kernel

theorem nodup_methods : (methods.map (·.1)).Nodup := by decide +kernel

theorem disjoint_builtinFunctions_methods :
    ∀ key ∈ builtinFunctions.map (·.2.2), key ∉ (methods.map (·.2)).flatten := by
  decide +kernel

theorem filter_eq_singleton {α : Type} {p : α → Bool} {as : List α} {a : α}
    (h : as.Pairwise fun x y => p x = true → ¬ p y = true) (ha : a ∈ as) (hp : p a = true) :
    as.filter p = [a] := by
  induction as with
  | nil => cases ha
  | cons b as ih =>
    rw [List.pairwise_cons] at h
    rcases List.mem_cons.1 ha with rfl | hm
    · have hn : as.filter p = [] := List.filter_eq_nil_iff.2 fun x hx => h.1 x hx hp
      rw [List.filter_cons_of_pos hp, hn]
    · have hb : ¬ p b = true := fun hb => h.1 a hm hb hp
      rw [List.filter_cons_of_neg hb, ih h.2 hm]

theorem filter_builtinFunctions {receiver name key : String} {names : List String}
    (h : (receiver, names, key) ∈ builtinFunctions) (hn : name ∈ names) :
    (builtinFunctions.filter fun (n, functions, _) => n == receiver && functions.contains name) =
      [(receiver, names, key)] := by
  apply filter_eq_singleton _ h
  · simpa using hn
  · apply pairwise_builtinFunctions.imp
    rintro ⟨n, functions, k⟩ ⟨n', functions', k'⟩ hd hp hp'
    simp only [Bool.and_eq_true, beq_iff_eq, List.contains_iff_mem] at hp hp'
    exact hd (hp.1.trans hp'.1.symm) name hp.2 hp'.2

theorem lookup_methods {name : String} {keys : List String} (h : (name, keys) ∈ methods) :
    methods.lookup name = some keys := by
  cases hl : methods.lookup name with
  | none =>
    have hn := List.lookup_eq_none_iff.1 hl _ h
    exact absurd hn (by simp)
  | some found =>
    have he := List.inj_on_of_nodup_map nodup_methods (Shown.mem_of_lookup hl) h rfl
    rw [(Prod.mk.inj he).2]

end Tables

variable {object object' property property' callee callee' : Node} {name key : String}
  {keys : List String} {span : Span}

theorem memberOf?_eq_some_iff :
    memberOf? callee = some (object, property) ↔ Accesses object property callee := by
  constructor
  · intro h
    fun_induction memberOf? callee with
    | case1 place o p =>
      cases h
      exact .member place
    | case2 place isOptional inner o p =>
      cases h
      exact .optionalChain place inner isOptional
    | case3 place e ih => exact .parenthesized place (ih h)
    | case4 => cases h
  · intro h
    induction h with
    | member => rfl
    | optionalChain => rfl
    | parenthesized place _ ih => rw [memberOf?, ih]

theorem propertyName?_eq_some_iff : propertyName? property = some name ↔ Spells name property := by
  constructor
  · intro h
    unfold propertyName? at h
    split at h <;> cases h
    · exact .name _
    · exact .literal _ _ _
  · intro h
    cases h <;> rfl

theorem memberNames?_of_accesses (ha : Accesses object property callee)
    (hs : Spells name property) :
    memberNames? callee = some (receiverName? object, some name) := by
  rw [memberNames?, memberOf?_eq_some_iff.2 ha, Option.map_some, propertyName?_eq_some_iff.2 hs]

theorem callUses_of_builtin (ha : Accesses object property callee) (hs : Spells name property)
    (hb : IsBuiltinFunction name key object) : callUses callee span = [⟨key, span⟩] := by
  rw [callUses_eq, memberNames?_of_accesses ha hs]
  cases hb with
  | mk place receiver names hr hn =>
    simp only [namesUses, receiverName?, filter_builtinFunctions hr hn]
    rfl

theorem callUses_of_not_builtin (ha : Accesses object property callee)
    (hs : Spells name property) (hb : ∀ key, ¬ IsBuiltinFunction name key object) :
    callUses callee span = ((methods.lookup name).getD []).map (⟨·, span⟩) := by
  rw [callUses_eq, memberNames?_of_accesses ha hs]
  cases object with
  | identifier place receiver =>
    have hn : (builtinFunctions.filter fun (n, functions, _) =>
        n == receiver && functions.contains name) = [] := by
      rw [List.filter_eq_nil_iff]
      rintro ⟨n, functions, k⟩ hm hp
      simp only [Bool.and_eq_true, beq_iff_eq, List.contains_iff_mem] at hp
      obtain ⟨rfl, hf⟩ := hp
      exact hb k (.mk place n functions hm hf)
    simp only [namesUses, receiverName?, hn]
    rfl
  | _ => rfl

theorem callUses_of_method (ha : Accesses object property callee) (hs : Spells name property)
    (hb : ∀ key, ¬ IsBuiltinFunction name key object) (hm : (name, keys) ∈ methods) :
    callUses callee span = keys.map (⟨·, span⟩) := by
  rw [callUses_of_not_builtin ha hs hb, lookup_methods hm, Option.getD_some]

theorem callUses_of_unknown (ha : Accesses object property callee) (hs : Spells name property)
    (hb : ∀ key, ¬ IsBuiltinFunction name key object) (hm : ∀ keys, (name, keys) ∉ methods) :
    callUses callee span = [] := by
  rw [callUses_of_not_builtin ha hs hb]
  cases hl : methods.lookup name with
  | none => rfl
  | some keys => exact absurd (Shown.mem_of_lookup hl) (hm keys)

theorem callUses_of_nameless
    (h : ∀ object property name, Accesses object property callee → ¬ Spells name property) :
    callUses callee span = [] := by
  rw [callUses]
  cases hm : memberOf? callee with
  | none => rfl
  | some m =>
    obtain ⟨object, property⟩ := m
    cases hp : propertyName? property with
    | none => simp only [hp]
    | some name =>
      exact absurd (propertyName?_eq_some_iff.1 hp)
        (h object property name (memberOf?_eq_some_iff.1 hm))

theorem Accesses.unique (h : Accesses object property callee)
    (h' : Accesses object' property' callee) : object = object' ∧ property = property' := by
  have he := (memberOf?_eq_some_iff.2 h).symm.trans (memberOf?_eq_some_iff.2 h')
  exact Prod.mk.inj (Option.some.inj he)

theorem callUses_one_table (callee : Node) (span : Span) :
    (∀ u ∈ callUses callee span, u.key ∈ builtinFunctions.map (·.2.2)) ∨
      ∀ u ∈ callUses callee span, u.key ∈ (methods.map (·.2)).flatten := by
  by_cases h : ∃ object property name, Accesses object property callee ∧ Spells name property
  · obtain ⟨object, property, name, ha, hs⟩ := h
    by_cases hb : ∃ key, IsBuiltinFunction name key object
    · obtain ⟨key, hb⟩ := hb
      rw [callUses_of_builtin ha hs hb, List.forall_mem_singleton]
      cases hb with
      | mk place receiver names hr hn => exact .inl (List.mem_map_of_mem (f := (·.2.2)) hr)
    · rw [callUses_of_not_builtin ha hs (not_exists.1 hb)]
      cases hl : methods.lookup name with
      | none => exact .inl (List.forall_mem_nil _)
      | some keys =>
        have hk : keys ∈ methods.map (·.2) :=
          List.mem_map_of_mem (f := (·.2)) (Shown.mem_of_lookup hl)
        refine .inr fun u hu => ?_
        obtain ⟨key, hm, rfl⟩ := List.mem_map.1 hu
        exact List.mem_flatten_of_mem hk hm
  · rw [callUses_of_nameless fun object property name ha hs => h ⟨object, property, name, ha, hs⟩]
    exact .inl (List.forall_mem_nil _)

/-- All ways to write an access to a member are classified alike, and receivers that are the same
name, or both no names, are too. A function of a built-in object shows its own key and nothing
else. Any other name shows the keys of the methods that have it, in the order of their row, or
nothing. Private names, computed properties and what is no access to a member show nothing. No call
shows keys of both tables. Calls and optional calls are classified alike. -/
theorem callUses_by_names (span : Span) :
    (∀ object object' property property' callee callee' name,
      Accesses object property callee → Accesses object' property' callee' →
      Spells name property → Spells name property' →
      receiverName? object = receiverName? object' →
      callUses callee span = callUses callee' span) ∧
    (∀ object property callee name, Accesses object property callee → Spells name property →
      (∀ key, IsBuiltinFunction name key object → callUses callee span = [⟨key, span⟩]) ∧
      ((∀ key, ¬ IsBuiltinFunction name key object) →
        (∀ keys, (name, keys) ∈ methods → callUses callee span = keys.map (⟨·, span⟩)) ∧
        ((∀ keys, (name, keys) ∉ methods) → callUses callee span = []))) ∧
    (∀ object place name callee, Accesses object (.privateName place name) callee →
      callUses callee span = []) ∧
    (∀ object place e callee, Accesses object (.index place e) callee →
      (∀ inner value raw, e ≠ .stringLiteral inner value raw) → callUses callee span = []) ∧
    (∀ callee, (∀ object property, ¬ Accesses object property callee) →
      callUses callee span = []) ∧
    (∀ callee, ∀ u ∈ callUses callee span, ∀ v ∈ callUses callee span,
      u.key ∈ builtinFunctions.map (·.2.2) → v.key ∉ (methods.map (·.2)).flatten) ∧
    ∀ callee arguments arguments', (∀ place, callee ≠ .importCallee place) →
      (Node.call span callee arguments).uses = callUses callee span ∧
      (Node.optionalCall span callee arguments').uses = callUses callee span := by
  refine ⟨?_, ?_, ?_, ?_, ?_, ?_, ?_⟩
  · intro object object' property property' callee callee' name ha ha' hs hs' hr
    rw [callUses_eq, callUses_eq, memberNames?_of_accesses ha hs, memberNames?_of_accesses ha' hs',
      hr]
  · intro object property callee name ha hs
    refine ⟨fun key hb => callUses_of_builtin ha hs hb, fun hb => ?_⟩
    exact ⟨fun keys hm => callUses_of_method ha hs hb hm, callUses_of_unknown ha hs hb⟩
  · intro object place name callee ha
    apply callUses_of_nameless
    intro object' property' name' ha' hs
    obtain ⟨-, rfl⟩ := ha.unique ha'
    cases hs
  · intro object place e callee ha he
    apply callUses_of_nameless
    intro object' property' name' ha' hs
    obtain ⟨-, rfl⟩ := ha.unique ha'
    cases hs
    exact he _ _ _ rfl
  · intro callee h
    exact callUses_of_nameless fun object property _ ha => absurd ha (h object property)
  · intro callee u hu v hv hk hm
    rcases callUses_one_table callee span with h | h
    · exact disjoint_builtinFunctions_methods _ (h v hv) hm
    · exact disjoint_builtinFunctions_methods _ hk (h u hu)
  · intro callee arguments arguments' h
    refine ⟨?_, rfl⟩
    rw [uses_call]
    cases callee with
    | importCallee place => exact absurd rfl (h place)
    | _ => rfl

theorem callUses_by_names_object :
    let s : Span := ⟨1, 20⟩
    let object : Node := .identifier s "Object"
    let list : Node := .identifier s "list"
    let groupBy : Node := .member s object (.propertyName s "groupBy")
    let groupBy' : Node := .parenthesized s (.optionalChain s true
      (.member s object (.index s (.stringLiteral s "groupBy" none))))
    callUses groupBy' s = callUses groupBy s ∧
      callUses groupBy s = [⟨"array-grouping", s⟩] ∧
      (∀ u ∈ callUses groupBy s, u.key ∉ (methods.map (·.2)).flatten) ∧
      callUses (.member s list (.propertyName s "includes")) s =
        [⟨"array-includes", s⟩, ⟨"string-includes", s⟩] ∧
      callUses (.member s list (.propertyName s "map")) s = [] ∧
      callUses (.member s list (.privateName s "at")) s = [] ∧
      callUses (.member s list (.index s list)) s = [] ∧
      callUses list s = [] ∧
      (Node.call s groupBy [list]).uses = callUses groupBy s := by
  intro s object list groupBy groupBy'
  have ha : Accesses object (.propertyName s "groupBy") groupBy := .member s
  have ha' : Accesses object (.index s (.stringLiteral s "groupBy" none)) groupBy' :=
    .parenthesized s (.optionalChain s s true)
  have hb : IsBuiltinFunction "groupBy" "array-grouping" object :=
    .mk s "Object" ["groupBy"] (by decide) (by decide)
  have hl (name key : String) : ¬ IsBuiltinFunction name key (.identifier s "list") := by
    rintro ⟨-, -, names, hr, -⟩
    simp [builtinFunctions] at hr
  have hn (object property : Node) : ¬ Accesses object property (.identifier s "list") := by
    rintro ⟨⟩
  have hs (place : Span) (value : String) (raw : Option String) :
      Node.identifier s "list" ≠ .stringLiteral place value raw := nofun
  have hi (place : Span) :
      Node.member s object (.propertyName s "groupBy") ≠ .importCallee place := nofun
  obtain ⟨alike, named, privately, computed, others, disjoint, calls⟩ := callUses_by_names s
  obtain ⟨builtin, -⟩ := named _ _ _ _ ha (.name s)
  obtain ⟨-, includes⟩ := named list _ _ "includes" (.member s) (.name s)
  obtain ⟨-, map⟩ := named list _ _ "map" (.member s) (.name s)
  refine ⟨?_, builtin _ hb, ?_,
    (includes (hl _)).1 ["array-includes", "string-includes"] (by decide), (map (hl _)).2 ?_,
    privately list s "at" _ (.member s), computed list s list _ (.member s) hs, others list hn,
    (calls groupBy [list] [] hi).1⟩
  · exact alike object object _ _ _ _ "groupBy" ha' ha (.literal s s none) (.name s) rfl
  · intro u hu
    refine disjoint groupBy u hu u hu ?_
    rw [builtin _ hb, List.mem_singleton] at hu
    rw [hu]
    decide
  · intro keys hm
    simp [methods] at hm

end Usage
end ScriptFeatures

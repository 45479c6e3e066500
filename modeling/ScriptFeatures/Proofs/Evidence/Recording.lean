import ScriptFeatures.Evidence

namespace ScriptFeatures

open Text (Snippet)

theorem Text.Snippet.compare_eq_iff {a b : Snippet} : compare a b = .eq ↔ a = b := by
  change Snippet.compare a b = .eq ↔ a = b
  cases a
  cases b
  simp only [Snippet.compare, Ordering.then_eq_eq, Std.compare_eq_iff_eq, Snippet.mk.injEq,
    and_assoc]

@[simp] theorem mem_insertSnippet {s t : Snippet} {ss : List Snippet} :
    t ∈ insertSnippet s ss ↔ t = s ∨ t ∈ ss := by
  induction ss with
  | nil => simp [insertSnippet]
  | cons u us ih =>
    rw [insertSnippet]
    split
    case h_1 => exact List.mem_cons
    case h_2 he =>
      rw [Snippet.compare_eq_iff.1 he, List.mem_cons, ← or_assoc, or_self]
    case h_3 => rw [List.mem_cons, List.mem_cons, ih, or_left_comm]

namespace Evidence

def recordAll (e : Evidence) (hits : List (String × Snippet)) : Evidence :=
  hits.foldl (fun e h => (e.record h.1 h.2).2) e

@[simp] theorem recordAll_nil (e : Evidence) : e.recordAll [] = e := rfl

@[simp] theorem recordAll_cons (e : Evidence) (key : String) (s : Snippet)
    (hits : List (String × Snippet)) :
    e.recordAll ((key, s) :: hits) = (e.record key s).2.recordAll hits := rfl

theorem recordAll_append (e : Evidence) (hits more : List (String × Snippet)) :
    e.recordAll (hits ++ more) = (e.recordAll hits).recordAll more :=
  List.foldl_append

theorem lookup_cons_of_ne {k k' : String} (h : k ≠ k') (ss : List Snippet)
    (es : List (String × List Snippet)) : ((k', ss) :: es).lookup k = es.lookup k := by
  rw [List.lookup_cons, beq_false_of_ne h]

theorem lookup_recordIn (key k : String) (s : Snippet) (es : List (String × List Snippet)) :
    (recordIn key s es).lookup k =
      if k = key then some (insertSnippet s ((es.lookup key).getD [])) else es.lookup k := by
  induction es with
  | nil =>
    by_cases h : k = key
    · simp [recordIn, h, insertSnippet]
    · rw [recordIn, lookup_cons_of_ne h, if_neg h]
  | cons e es ih =>
    obtain ⟨k', ss⟩ := e
    rw [recordIn]
    by_cases hk : k' = key
    · subst hk
      rw [if_pos rfl, List.lookup_cons_self]
      by_cases h : k = k'
      · rw [h, List.lookup_cons_self, if_pos rfl, Option.getD_some]
      · rw [lookup_cons_of_ne h, lookup_cons_of_ne h, if_neg h]
    · rw [if_neg hk, lookup_cons_of_ne (Ne.symm hk)]
      by_cases h : k = k'
      · rw [h, List.lookup_cons_self, List.lookup_cons_self, if_neg hk]
      · rw [lookup_cons_of_ne h, lookup_cons_of_ne h, ih]

theorem snippets?_record (e : Evidence) (key k : String) (s : Snippet) :
    (e.record key s).2.snippets? k =
      if k = key then some (insertSnippet s ((e.snippets? key).getD [])) else e.snippets? k :=
  lookup_recordIn key k s e.entries

theorem contains_iff {e : Evidence} {key : String} {s : Snippet} :
    e.contains key s = true ↔ s ∈ (e.snippets? key).getD [] :=
  List.contains_iff_mem

theorem contains_empty (key : String) (s : Snippet) : empty.contains key s = false := rfl

theorem contains_record {e : Evidence} {key k : String} {s t : Snippet} :
    (e.record key s).2.contains k t = true ↔
      (k, t) = (key, s) ∨ e.contains k t = true := by
  rw [contains_iff, contains_iff, snippets?_record]
  by_cases h : k = key
  · subst h
    simp
  · simp [h]

theorem contains_recordAll {e : Evidence} {hits : List (String × Snippet)} {k : String}
    {t : Snippet} :
    (e.recordAll hits).contains k t = true ↔ (k, t) ∈ hits ∨ e.contains k t = true := by
  induction hits generalizing e with
  | nil => simp
  | cons h hits ih =>
    obtain ⟨key, s⟩ := h
    rw [recordAll_cons, ih, contains_record, List.mem_cons, ← or_assoc, or_comm (a := _ ∈ hits)]

theorem keys_recordIn (key : String) (s : Snippet) (es : List (String × List Snippet)) :
    (recordIn key s es).map (·.1) =
      if key ∈ es.map (·.1) then es.map (·.1) else es.map (·.1) ++ [key] := by
  induction es with
  | nil => rfl
  | cons e es ih =>
    obtain ⟨k, ss⟩ := e
    by_cases hk : k = key
    · simp [recordIn, hk]
    · have hk' : ¬ key = k := fun h => hk h.symm
      rw [recordIn, if_neg hk, List.map_cons, ih]
      by_cases h : key ∈ es.map (·.1) <;> simp [h, hk']

theorem keys_record (e : Evidence) (key : String) (s : Snippet) :
    (e.record key s).2.keys = if key ∈ e.keys then e.keys else e.keys ++ [key] :=
  keys_recordIn key s e.entries

theorem keys_recordAll (e : Evidence) (hits : List (String × Snippet)) :
    (e.recordAll hits).keys = e.keys ++ ((hits.map (·.1)).removeAll e.keys).eraseDups := by
  induction hits generalizing e with
  | nil => simp [List.removeAll]
  | cons h hits ih =>
    obtain ⟨key, s⟩ := h
    rw [recordAll_cons, ih, keys_record]
    by_cases hk : key ∈ e.keys
    · simp [hk, List.removeAll]
    · have hf : (hits.map (·.1)).removeAll (e.keys ++ [key]) =
          ((hits.map (·.1)).removeAll e.keys).filter fun k => !k == key := by
        rw [List.removeAll, List.removeAll, List.filter_filter]
        congr 1
        funext k
        by_cases h : k = key <;> simp [h]
      have hc : ((key :: hits.map (·.1)).removeAll e.keys) =
          key :: (hits.map (·.1)).removeAll e.keys := by
        simp [List.removeAll, hk]
      rw [if_neg hk, hf, List.append_assoc, List.map_cons, hc, List.eraseDups_cons]
      rfl

theorem keys_recordAll_empty (hits : List (String × Snippet)) :
    (empty.recordAll hits).keys = (hits.map (·.1)).eraseDups := by
  have hk : empty.keys = [] := rfl
  rw [keys_recordAll, hk, List.nil_append, List.removeAll, List.filter_eq_self.2 (by simp)]

end Evidence
end ScriptFeatures

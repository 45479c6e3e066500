import ScriptFeatures.Proofs.Usage.Keys

namespace ScriptFeatures

open Syntax

namespace Usage

def functionKeys : List String := [
  "generators", "async-functions", "async-generators", "default-parameters", "rest-parameters"]

def callKeys : List String := builtinFunctions.map (·.2.2) ++ (methods.map (·.2)).flatten

def constructKeys : List String := constructors.map (·.2) ++ ["error-cause"]

def regexKeys : List String :=
  regexFlags.map (·.2) ++
    ["regex-lookbehind", "regex-named-groups", "regex-unicode-property-escapes"]

def numberKeys : List String := ["numeric-separators", "binary-octal-literals"]

def binaryKeys : List String := ["exponentiation", "nullish-coalescing", "private-in"]

def assignmentKeys : List String := ["exponentiation", "logical-assignment"]

def KeysIn (keys : List String) (us : List Use) : Prop := ∀ u ∈ us, u.key ∈ keys

namespace KeysIn

variable {keys : List String} {us vs : List Use} {span : Span}

theorem nil : KeysIn keys [] := by simp [KeysIn]

theorem one {key : String} (h : key ∈ keys) : KeysIn keys [⟨key, span⟩] := by
  simpa [KeysIn] using h

theorem append (hu : KeysIn keys us) (hv : KeysIn keys vs) : KeysIn keys (us ++ vs) :=
  List.forall_mem_append.2 ⟨hu, hv⟩

theorem ite {p : Prop} [Decidable p] (hu : KeysIn keys us) (hv : KeysIn keys vs) :
    KeysIn keys (if p then us else vs) := by
  split
  · exact hu
  · exact hv

theorem one_if {p : Prop} [Decidable p] {key : String} (h : key ∈ keys) :
    KeysIn keys (if p then [⟨key, span⟩] else []) :=
  ite (one h) nil

theorem rows {α : Type} {rows : List α} {key : α → String} (h : ∀ row ∈ rows, key row ∈ keys) :
    KeysIn keys (rows.map fun row => ⟨key row, span⟩) := by
  intro u hu
  obtain ⟨row, hr, rfl⟩ := List.mem_map.1 hu
  exact h row hr

theorem filterMap {α : Type} {f : α → Option Use} (h : ∀ a u, f a = some u → u.key ∈ keys)
    (as : List α) : KeysIn keys (as.filterMap f) := by
  intro u hu
  obtain ⟨a, _, ha⟩ := List.mem_filterMap.1 hu
  exact h a u ha

theorem lookup {table : List (String × String)} (name : String) :
    KeysIn (table.map (·.2)) ((table.lookup name).toList.map (⟨·, span⟩)) := by
  apply rows
  intro key hk
  exact List.mem_map_of_mem (Shown.mem_of_lookup (Option.mem_toList.1 hk))

theorem params (ps : List Node) : KeysIn functionKeys (ps.filterMap paramUse?) := by
  apply filterMap
  intro p u h
  unfold paramUse? at h
  split at h <;> cases h <;> simp [functionKeys]

theorem quasis (qs : List Node) :
    KeysIn ["template-literals", "unicode-code-point-escapes"] (qs.filterMap quasiUse?) := by
  apply filterMap
  intro q u h
  unfold quasiUse? at h
  split at h
  · split at h <;> cases h
    simp
  · cases h

theorem restProperties (ps : List Node) :
    KeysIn ["destructuring", "object-rest-spread"] (ps.filterMap restPropertyUse?) := by
  apply filterMap
  intro p u h
  unfold restPropertyUse? at h
  split at h <;> cases h
  simp

theorem flags (isAsync isGenerator : Bool) :
    KeysIn functionKeys (functionFlags span isAsync isGenerator) :=
  ((one_if (by decide)).append (one_if (by decide))).append (one_if (by decide))

theorem callUses (callee : Node) : KeysIn callKeys (Usage.callUses callee span) := by
  have hm (name : String) : KeysIn callKeys (((methods.lookup name).getD []).map (⟨·, span⟩)) := by
    apply rows
    intro key hk
    cases hl : methods.lookup name with
    | none => simp [hl] at hk
    | some names =>
      rw [hl] at hk
      have hn := List.mem_map_of_mem (f := Prod.snd) (Shown.mem_of_lookup hl)
      exact List.mem_append_right _ (List.mem_flatten_of_mem hn hk)
  unfold Usage.callUses
  split
  · exact nil
  · split
    · exact nil
    · split
      · apply ite (hm _) (rows _)
        intro row hr
        exact List.mem_append_left _ (List.mem_map_of_mem (List.mem_filter.1 hr).1)
      · exact hm _

theorem constructUses (callee : Node) (arguments : List Node) :
    KeysIn constructKeys (Usage.constructUses callee arguments span) := by
  unfold Usage.constructUses
  split
  · apply append _ (one_if (by decide))
    exact fun u hu => List.mem_append_left _ (lookup _ u hu)
  · exact nil

theorem regexUses (pattern flags : List Char) :
    KeysIn regexKeys (Usage.regexUses pattern flags span) := by
  have hf : KeysIn regexKeys ((regexFlags.filter fun row => flags.contains row.1).map
      (⟨·.2, span⟩)) :=
    rows fun row hr => List.mem_append_left _ (List.mem_map_of_mem (List.mem_filter.1 hr).1)
  exact ((hf.append (one_if (by decide))).append (one_if (by decide))).append
    (one_if (by decide))

theorem numberUses (raw : List Char) : KeysIn numberKeys (Usage.numberUses raw span) := by
  unfold Usage.numberUses
  apply (one_if (by decide)).append
  split
  · exact one_if (by decide)
  · exact nil

theorem binaryUses (operator : BinaryOperator) (left : Node) :
    KeysIn binaryKeys (Usage.binaryUses operator left span) := by
  unfold Usage.binaryUses
  split <;> first | exact nil | exact one (by decide)

theorem assignmentUses (operator : AssignOperator) :
    KeysIn assignmentKeys (Usage.assignmentUses operator span) := by
  unfold Usage.assignmentUses
  split <;> first | exact nil | exact one (by decide)

end KeysIn
end Usage

namespace Syntax.Node

open Usage

/-- The keys that a node may show by its kind. -/
def kindKeys : Node → List String
  | identifier .. => globals.map (·.2)
  | computedKey .. => ["computed-properties"]
  | stringLiteral .. => ["unicode-code-point-escapes"]
  | numberLiteral .. => numberKeys
  | bigintLiteral .. => ["bigint"]
  | regexLiteral .. => regexKeys
  | spread .. => ["spread-syntax"]
  | objectSpread .. => ["object-rest-spread"]
  | arrowFunction .. => "arrow-functions" :: functionKeys
  | function .. | constructorMember .. => functionKeys
  | template .. => ["template-literals", "unicode-code-point-escapes"]
  | taggedTemplate .. => ["tagged-templates", "string-raw"]
  | call .. => "dynamic-import" :: callKeys
  | optionalCall .. => callKeys
  | construct .. => constructKeys
  | optionalChain .. => ["optional-chaining"]
  | metaProperty .. => ["new-target", "import-meta"]
  | await .. => ["await"]
  | binary .. => binaryKeys
  | assignment .. => assignmentKeys
  | shorthand .. => ["shorthand-properties"]
  | method .. => ["method-definitions"]
  | arrayPattern .. => ["destructuring"]
  | objectPattern .. => ["destructuring", "object-rest-spread"]
  | classDefinition .. => ["classes"]
  | classProperty .. => ["static-class-fields", "class-fields"]
  | privateProperty .. => ["private-class-fields", "static-class-fields"]
  | privateMethod .. => ["private-methods"]
  | staticBlock .. => ["class-static-blocks"]
  | decorator .. => ["decorators"]
  | variableDeclaration .. => ["const", "let"]
  | usingDeclaration .. => ["explicit-resource-management"]
  | forOfStatement .. => ["for-of", "for-await-of"]
  | catchClause .. => ["optional-catch-binding"]
  | importDeclaration .. | exportNames .. | exportAll .. | exportDeclaration ..
  | exportDefaultDeclaration .. | exportDefaultExpression .. => ["es-modules"]
  | _ => []

theorem keysIn_kindKeys (n : Node) : KeysIn n.kindKeys n.uses := by
  cases n with
  | identifier span name => exact .lookup name
  | stringLiteral span value raw =>
    cases raw with
    | none => exact .nil
    | some raw => exact .one_if (.head _)
  | numberLiteral span raw =>
    cases raw with
    | none => exact .nil
    | some raw => exact .numberUses _
  | regexLiteral span pattern flags => exact .regexUses _ _
  | arrowFunction span isAsync isGenerator params body =>
    have hf : KeysIn functionKeys
        (functionFlags span isAsync isGenerator ++ params.filterMap paramUse?) :=
      (KeysIn.flags _ _).append (.params _)
    intro u hu
    rcases List.mem_cons.1 hu with rfl | hu
    · exact .head _
    · exact .tail _ (hf u hu)
  | function span isAsync isGenerator params decorators body =>
    exact (KeysIn.flags _ _).append (.params _)
  | constructorMember => exact .params _
  | template span expressions quasis =>
    exact (KeysIn.one (.head _)).append (.quasis _)
  | taggedTemplate span tag template =>
    exact (KeysIn.one (.head _)).append (.one_if (.tail _ (.head _)))
  | call span callee arguments =>
    cases callee with
    | importCallee => exact .one (.head _)
    | superCallee => exact .nil
    | _ =>
      simp only [uses]
      exact fun u hu => .tail _ (KeysIn.callUses _ u hu)
  | optionalCall span callee arguments => exact .callUses _
  | construct span callee arguments => exact .constructUses _ _
  | optionalChain span isOptional base =>
    cases isOptional with
    | false => exact .nil
    | true => exact .one (.head _)
  | metaProperty span kind =>
    cases kind with
    | newTarget => exact .one (.head _)
    | importMeta => exact .one (.tail _ (.head _))
  | binary span operator left right => exact .binaryUses _ _
  | assignment span operator left right => exact .assignmentUses _
  | objectPattern span properties =>
    exact (KeysIn.one (.head _)).append (.restProperties _)
  | classProperty span isStatic =>
    cases isStatic with
    | false => exact .one (.tail _ (.head _))
    | true => exact .one (.head _)
  | privateProperty span isStatic =>
    cases isStatic with
    | false => exact .one (.head _)
    | true => exact (KeysIn.one (.head _)).append (.one (.tail _ (.head _)))
  | variableDeclaration span kind =>
    cases kind with
    | var => exact .nil
    | «let» => exact .one (.tail _ (.head _))
    | const => exact .one (.head _)
  | forOfStatement span isAwait left right body =>
    exact (KeysIn.one (.head _)).append (.one_if (.tail _ (.head _)))
  | catchClause span param body =>
    cases param with
    | none => exact .one (.head _)
    | some => exact .nil
  | _ => first | exact .nil | exact .one (.head _)

theorem filter_uses_eq_nil {n : Node} {key : String} (h : key ∉ n.kindKeys) :
    n.uses.filter (·.key == key) = [] := by
  rw [List.filter_eq_nil_iff]
  intro u hu he
  rw [beq_iff_eq] at he
  exact h (he ▸ n.keysIn_kindKeys u hu)

end Syntax.Node
end ScriptFeatures

import ScriptFeatures.Proofs.Usage.Keys

namespace ScriptFeatures

open Syntax

namespace Usage

/-- Keys, each with one that is shown wherever it is shown. -/
def companions : List (String × String) := [
  ("array-at", "string-at"), ("string-at", "array-at"), ("array-at", "typed-array-at"),
  ("typed-array-at", "array-at"),
  ("array-includes", "string-includes"), ("string-includes", "array-includes"),
  ("array-with", "typed-array-with"), ("typed-array-with", "array-with"),
  ("async-generators", "generators"), ("async-generators", "async-functions"),
  ("for-await-of", "for-of")]

/-- A key that has a companion is never shown alone, and its companion stands in all of its
groups. -/
theorem companion_mem_groups : ∀ c ∈ companions,
    c.1 ∉ ruleKeys ++ tableKeys ∧ ∀ keys ∈ groups, c.1 ∈ keys → c.2 ∈ keys := by
  decide +kernel

theorem Shown.companion_mem {us : List Use} (h : Shown us) {key other : String}
    (hc : (key, other) ∈ companions) {span : Span} (hu : ⟨key, span⟩ ∈ us) :
    ⟨other, span⟩ ∈ us := by
  induction h with
  | nil => cases hu
  | append _ _ ihu ihv =>
    rcases List.mem_append.1 hu with hu | hv
    · exact List.mem_append_left _ (ihu hu)
    · exact List.mem_append_right _ (ihv hv)
  | alone span hk =>
    obtain ⟨rfl, rfl⟩ := Use.mk.inj (List.mem_singleton.1 hu)
    exact ((companion_mem_groups _ hc).1 hk).elim
  | group span hg =>
    obtain ⟨_, hm, he⟩ := List.mem_map.1 hu
    obtain ⟨rfl, rfl⟩ := Use.mk.inj he
    have ho : other ∈ _ := (companion_mem_groups _ hc).2 _ hg hm
    exact List.mem_map.2 ⟨other, ho, rfl⟩

end Usage

theorem Syntax.Node.companion_mem_uses {n : Node} {key other : String}
    (hc : (key, other) ∈ Usage.companions) {span : Span} (hu : ⟨key, span⟩ ∈ n.uses) :
    ⟨other, span⟩ ∈ n.uses :=
  n.shown_uses.companion_mem hc hu

end ScriptFeatures

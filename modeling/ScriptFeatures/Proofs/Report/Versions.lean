import Mathlib.Data.List.MinMax
import ScriptFeatures.Proofs.Decimal.Order
import ScriptFeatures.Report

namespace ScriptFeatures

open Decimal (Magnitude)

theorem foldl_largest (n : Magnitude) (ns : List Magnitude) :
    ns.foldl (fun best n => some (best.elim n (max · n))) (some n) = some (ns.foldl max n) := by
  induction ns generalizing n with
  | nil => rfl
  | cons m ns ih => exact ih (max n m)

theorem largest?_eq_max? (ns : List Magnitude) : largest? ns = ns.max? := by
  cases ns with
  | nil => rfl
  | cons n ns => exact foldl_largest n ns

theorem largest?_eq_some_iff {ns : List Magnitude} {n : Magnitude} :
    largest? ns = some n ↔ n ∈ ns ∧ ∀ m ∈ ns, m ≤ n := by
  rw [largest?_eq_max?, List.max?_eq_some_iff]

theorem largest?_perm {ns ns' : List Magnitude} (h : ns.Perm ns') : largest? ns = largest? ns' := by
  apply Option.ext
  intro n
  rw [largest?_eq_some_iff, largest?_eq_some_iff, h.mem_iff]
  simp only [h.mem_iff]

theorem get_minimumVersions (fs : List Feature) (b : Browser) :
    (minimumVersions fs).get b = Slot.ofFloor? (largest? (floors fs b)) :=
  VersionRecord.get_ofFn _ b

theorem mem_floors {fs : List Feature} {b : Browser} {n : Magnitude} :
    n ∈ floors fs b ↔ ∃ f ∈ fs, Slot.floor? (f.support.get b) = some n :=
  List.mem_filterMap

theorem largest?_eq_none_iff {ns : List Magnitude} : largest? ns = none ↔ ns = [] := by
  rw [largest?_eq_max?, List.max?_eq_none_iff]

theorem minimumVersions_perm {fs fs' : List Feature} (h : fs.Perm fs') :
    minimumVersions fs = minimumVersions fs' := by
  have hf (b : Browser) : largest? (floors fs b) = largest? (floors fs' b) :=
    largest?_perm (h.filterMap _)
  simp only [minimumVersions, hf]

theorem Summary.ofFeatures_perm {fs fs' : List Feature} (h : fs.Perm fs') :
    Summary.ofFeatures fs = Summary.ofFeatures fs' := by
  rw [Summary.ofFeatures, Summary.ofFeatures, h.length_eq, h.countP_eq, h.all_eq]

end ScriptFeatures

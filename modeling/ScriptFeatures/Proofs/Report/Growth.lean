import Mathlib.Order.Bounds.Basic
import ScriptFeatures.Proofs.Report.Slot
import ScriptFeatures.Proofs.Report.Versions

namespace ScriptFeatures

open Decimal (Magnitude)

variable {as bs : List Feature} {b : Browser} {m n : Magnitude} {ms ns : List Magnitude}

def IsLargestFloor (fs : List Feature) (b : Browser) (m : Magnitude) : Prop :=
  IsGreatest {n | ∃ f ∈ fs, Slot.floor? (f.support.get b) = some n} m

theorem largest?_floors_eq_some_iff :
    largest? (floors as b) = some m ↔ IsLargestFloor as b m := by
  rw [largest?_eq_some_iff, IsLargestFloor, IsGreatest, mem_upperBounds]
  simp only [mem_floors, Set.mem_ofPred_eq]

theorem largest?_congr (h : ∀ n, n ∈ ms ↔ n ∈ ns) : largest? ms = largest? ns := by
  apply Option.ext
  intro n
  rw [largest?_eq_some_iff, largest?_eq_some_iff]
  simp only [h]

theorem largest?_append_of_le (hm : largest? ms = some m) (hn : largest? ns = some n)
    (h : m ≤ n) : largest? (ms ++ ns) = some n := by
  obtain ⟨-, hle⟩ := largest?_eq_some_iff.1 hm
  obtain ⟨hmem, hle'⟩ := largest?_eq_some_iff.1 hn
  rw [largest?_eq_some_iff]
  refine ⟨List.mem_append_right _ hmem, ?_⟩
  intro l hl
  rcases List.mem_append.1 hl with hl | hl
  · exact (hle l hl).trans h
  · exact hle' l hl

theorem exists_largest?_le (h : ms ⊆ ns) (hm : largest? ms = some m) :
    ∃ n, largest? ns = some n ∧ m ≤ n := by
  have hmem : m ∈ ns := h (largest?_eq_some_iff.1 hm).1
  cases hn : largest? ns with
  | none =>
    rw [largest?_eq_none_iff.1 hn] at hmem
    cases hmem
  | some n => exact ⟨n, rfl, (largest?_eq_some_iff.1 hn).2 m hmem⟩

theorem floors_append (as bs : List Feature) (b : Browser) :
    floors (as ++ bs) b = floors as b ++ floors bs b := List.filterMap_append

theorem floors_eq_nil_iff : floors as b = [] ↔ ∀ f ∈ as, Slot.floor? (f.support.get b) = none :=
  List.filterMap_eq_nil_iff

theorem floors_subset (h : as ⊆ bs) (b : Browser) : floors as b ⊆ floors bs b := by
  intro n hn
  obtain ⟨f, hf, hfn⟩ := mem_floors.1 hn
  exact mem_floors.2 ⟨f, h hf, hfn⟩

theorem representable_of_largest? (h : largest? (floors as b) = some m) : m.Representable := by
  obtain ⟨f, -, hf⟩ := mem_floors.1 (largest?_eq_some_iff.1 h).1
  exact Slot.representable_of_floor? hf

structure Summary.IsSum (s s₁ s₂ : Summary) : Prop where
  totalFeatures_eq : s.totalFeatures = s₁.totalFeatures + s₂.totalFeatures
  modernOnlyFeatures_eq : s.modernOnlyFeatures = s₁.modernOnlyFeatures + s₂.modernOnlyFeatures
  compatible_eq : s.allFeaturesLegacyCompatible =
    (s₁.allFeaturesLegacyCompatible && s₂.allFeaturesLegacyCompatible)

theorem Summary.isSum_append (as bs : List Feature) :
    (ofFeatures (as ++ bs)).IsSum (ofFeatures as) (ofFeatures bs) where
  totalFeatures_eq := List.length_append
  modernOnlyFeatures_eq := List.countP_append
  compatible_eq := List.all_append

/-- The slot of one of two lists: that of the larger floor, or of the only list with a floor. -/
structure IsLargerSlot (as bs : List Feature) (b : Browser) (slot : String) : Prop where
  eq_or_eq : slot = (minimumVersions as).get b ∨ slot = (minimumVersions bs).get b
  left : (∀ f ∈ bs, Slot.floor? (f.support.get b) = none) → slot = (minimumVersions as).get b
  right : (∀ f ∈ as, Slot.floor? (f.support.get b) = none) → slot = (minimumVersions bs).get b
  of_ge : ∀ m n, IsLargestFloor as b m → IsLargestFloor bs b n → n ≤ m →
    slot = (minimumVersions as).get b
  of_le : ∀ m n, IsLargestFloor as b m → IsLargestFloor bs b n → m ≤ n →
    slot = (minimumVersions bs).get b

theorem isLargerSlot_append (as bs : List Feature) (b : Browser) :
    IsLargerSlot as bs b ((minimumVersions (as ++ bs)).get b) := by
  have left (h : floors bs b = []) :
      (minimumVersions (as ++ bs)).get b = (minimumVersions as).get b := by
    rw [get_minimumVersions, get_minimumVersions, floors_append, h, List.append_nil]
  have right (h : floors as b = []) :
      (minimumVersions (as ++ bs)).get b = (minimumVersions bs).get b := by
    rw [get_minimumVersions, get_minimumVersions, floors_append, h, List.nil_append]
  have of_ge (m n : Magnitude) (hm : largest? (floors as b) = some m)
      (hn : largest? (floors bs b) = some n) (h : n ≤ m) :
      (minimumVersions (as ++ bs)).get b = (minimumVersions as).get b := by
    rw [get_minimumVersions, get_minimumVersions, floors_append,
      largest?_perm List.perm_append_comm, largest?_append_of_le hn hm h, hm]
  have of_le (m n : Magnitude) (hm : largest? (floors as b) = some m)
      (hn : largest? (floors bs b) = some n) (h : m ≤ n) :
      (minimumVersions (as ++ bs)).get b = (minimumVersions bs).get b := by
    rw [get_minimumVersions, get_minimumVersions, floors_append, largest?_append_of_le hm hn h, hn]
  constructor
  case eq_or_eq =>
    cases hm : largest? (floors as b) with
    | none => exact .inr (right (largest?_eq_none_iff.1 hm))
    | some m =>
      cases hn : largest? (floors bs b) with
      | none => exact .inl (left (largest?_eq_none_iff.1 hn))
      | some n =>
        rcases le_total n m with h | h
        · exact .inl (of_ge m n hm hn h)
        · exact .inr (of_le m n hm hn h)
  case left => exact fun h => left (floors_eq_nil_iff.2 h)
  case right => exact fun h => right (floors_eq_nil_iff.2 h)
  case of_ge =>
    intro m n hm hn
    exact of_ge m n (largest?_floors_eq_some_iff.2 hm) (largest?_floors_eq_some_iff.2 hn)
  case of_le =>
    intro m n hm hn
    exact of_le m n (largest?_floors_eq_some_iff.2 hm) (largest?_floors_eq_some_iff.2 hn)

theorem minimumVersions_congr (h : as ⊆ bs) (h' : bs ⊆ as) :
    minimumVersions as = minimumVersions bs := by
  have hf (b : Browser) : largest? (floors as b) = largest? (floors bs b) :=
    largest?_congr fun _ => ⟨fun hn => floors_subset h b hn, fun hn => floors_subset h' b hn⟩
  simp only [minimumVersions, hf]

/-- The numbers of `bs` promise no more than those of `as`: what is asked for is not lowered, and
nothing is said to be supported or compatible that was not. -/
structure NotLowered (as bs : List Feature) : Prop where
  printed_le : ∀ b, (minimumVersions as).get b ≠ Slot.unsupported →
    ∃ x y, Slot.printed? ((minimumVersions as).get b) = some x ∧
      Slot.printed? ((minimumVersions bs).get b) = some y ∧ x ≤ y
  supported : ∀ b, (minimumVersions as).get b ≠ Slot.unsupported →
    (minimumVersions bs).get b ≠ Slot.unsupported
  incompatible : (Summary.ofFeatures as).allFeaturesLegacyCompatible = false →
    (Summary.ofFeatures bs).allFeaturesLegacyCompatible = false

theorem exists_ofFloor?_of_subset (h : as ⊆ bs)
    (hs : (minimumVersions as).get b ≠ Slot.unsupported) :
    ∃ m n, m.Representable ∧ n.Representable ∧ m ≤ n ∧
      (minimumVersions as).get b = Slot.ofFloor? (some m) ∧
      (minimumVersions bs).get b = Slot.ofFloor? (some n) := by
  rw [get_minimumVersions] at hs
  rw [get_minimumVersions, get_minimumVersions]
  cases hm : largest? (floors as b) with
  | none =>
    rw [hm] at hs
    exact absurd rfl hs
  | some m =>
    obtain ⟨n, hn, hle⟩ := exists_largest?_le (floors_subset h b) hm
    rw [hn]
    exact ⟨m, n, representable_of_largest? hm, representable_of_largest? hn, hle, rfl, rfl⟩

theorem notLowered_of_subset (h : as ⊆ bs) : NotLowered as bs := by
  constructor
  case printed_le =>
    intro b hs
    obtain ⟨m, n, hm, hn, hle, hsm, hsn⟩ := exists_ofFloor?_of_subset h hs
    rw [hsm, hsn]
    exact Slot.exists_printed?_le hm hn hle
  case supported =>
    intro b hs
    obtain ⟨m, n, -, -, -, -, hsn⟩ := exists_ofFloor?_of_subset h hs
    rw [hsn]
    exact Slot.ofFloor?_ne_unsupported n
  case incompatible =>
    intro hf
    obtain ⟨f, hf, hn⟩ := List.all_eq_false.1 hf
    exact List.all_eq_false.2 ⟨f, h hf, hn⟩

/-- The numbers of a report by the parts of its list of features. -/
theorem numbers_append (as bs : List Feature) :
    ((Summary.ofFeatures (as ++ bs)).IsSum (.ofFeatures as) (.ofFeatures bs) ∧
      ∀ b, IsLargerSlot as bs b ((minimumVersions (as ++ bs)).get b)) ∧
    (as.Perm bs → Summary.ofFeatures as = .ofFeatures bs ∧
      minimumVersions as = minimumVersions bs) ∧
    (as ⊆ bs → bs ⊆ as → minimumVersions as = minimumVersions bs) ∧
    (as ⊆ bs → NotLowered as bs) := by
  refine ⟨⟨Summary.isSum_append as bs, isLargerSlot_append as bs⟩, ?_, ?_, ?_⟩
  · intro h
    exact ⟨Summary.ofFeatures_perm h, minimumVersions_perm h⟩
  · exact minimumVersions_congr
  · exact notLowered_of_subset

theorem numbers_append_nine_ten :
    let feature (slot : String) : Feature := ⟨slot, slot, "", ⟨slot, slot, slot, slot, slot⟩, none⟩
    let as := [feature "9+", feature "beta"]
    let bs := [feature "No", feature "10.50*"]
    (minimumVersions as).ie = "9+" ∧ (minimumVersions bs).ie = "10.5+" ∧
      (minimumVersions (as ++ bs)).ie = "10.5+" ∧
      IsLargerSlot as bs .internetExplorer "10.5+" ∧
      minimumVersions (as ++ as) = minimumVersions as ∧
      Summary.ofFeatures (as ++ bs) = .ofFeatures (bs ++ as) ∧
      NotLowered as (as ++ bs) := by
  intro feature as bs
  have hs : (minimumVersions (as ++ bs)).ie = "10.5+" := by decide +kernel
  have hl := (numbers_append as bs).1.2 .internetExplorer
  have hd : as ++ as ⊆ as := List.append_subset.2 ⟨List.Subset.refl as, List.Subset.refl as⟩
  refine ⟨by decide +kernel, by decide +kernel, hs, ?_, ?_, ?_, ?_⟩
  · rw [← hs]
    exact hl
  · exact (numbers_append (as ++ as) as).2.2.1 hd (List.subset_append_left as as)
  · exact ((numbers_append (as ++ bs) (bs ++ as)).2.1 List.perm_append_comm).1
  · exact (numbers_append as (as ++ bs)).2.2.2 (List.subset_append_left as bs)

end ScriptFeatures

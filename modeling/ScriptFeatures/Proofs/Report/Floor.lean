import ScriptFeatures.Proofs.Report.Growth
import ScriptFeatures.Proofs.Report.Matrix

namespace ScriptFeatures

open Decimal (Magnitude)

namespace Slot

variable {slot slot' : String} {cs whole fraction : List Char}

theorem forall_ne_period_of_not_mem (h : '.' ∉ cs) : ∀ c ∈ cs, decide (c ≠ '.') = true := by
  intro c hc
  rw [decide_eq_true_iff]
  rintro rfl
  exact h hc

theorem isSome_readNumerals?_of_not_mem (h : '.' ∉ cs) :
    (readNumerals? cs).isSome = true ↔ cs ≠ [] := by
  have hp := forall_ne_period_of_not_mem h
  rw [readNumerals?, List.takeWhile_eq_self_iff.2 hp, List.dropWhile_eq_nil_iff.2 hp]
  cases cs <;> simp

theorem isSome_readNumerals?_of_period (h : '.' ∉ whole) :
    (readNumerals? (whole ++ '.' :: fraction)).isSome = true ↔
      '.' ∉ fraction ∧ whole ++ fraction ≠ [] := by
  have hp := forall_ne_period_of_not_mem h
  have hw : (whole ++ '.' :: fraction).takeWhile (· ≠ '.') = whole := by
    rw [List.takeWhile_append_of_pos hp, List.takeWhile_cons_of_neg (by simp), List.append_nil]
  have hf : ((whole ++ '.' :: fraction).dropWhile (· ≠ '.')).drop 1 = fraction := by
    rw [List.dropWhile_append_of_pos hp, List.dropWhile_cons_of_neg (by simp)]
    rfl
  rw [readNumerals?, hw, hf]
  by_cases hm : '.' ∈ fraction
  · simp [hm]
  · by_cases hn : whole ++ fraction = []
    · simp [hm, hn]
    · simp [hm, hn, -List.append_eq_nil_iff]

/-- Numerals are read if something stands beside the periods, and not two of these. -/
theorem isSome_readNumerals?_iff :
    (readNumerals? cs).isSome = true ↔ (∃ c ∈ cs, c ≠ '.') ∧ cs.count '.' ≤ 1 := by
  by_cases h : '.' ∈ cs
  · obtain ⟨whole, fraction, rfl, hw⟩ := List.eq_append_cons_of_mem h
    rw [isSome_readNumerals?_of_period hw, List.count_append, List.count_eq_zero.2 hw,
      List.count_cons_self]
    constructor
    · rintro ⟨hf, hne⟩
      obtain ⟨c, hc⟩ := List.exists_mem_of_ne_nil _ hne
      rw [List.mem_append] at hc
      have hp : c ≠ '.' := by
        rintro rfl
        exact hc.elim hw hf
      refine ⟨⟨c, List.mem_append.2 (hc.imp_right (List.mem_cons_of_mem _)), hp⟩, ?_⟩
      rw [List.count_eq_zero.2 hf]
    · rintro ⟨⟨c, hc, hp⟩, hn⟩
      have hf : '.' ∉ fraction := List.count_eq_zero.1 (by omega)
      rw [List.mem_append, List.mem_cons, or_iff_right hp] at hc
      exact ⟨hf, List.ne_nil_of_mem (List.mem_append.2 hc)⟩
  · rw [isSome_readNumerals?_of_not_mem h, List.count_eq_zero.2 h]
    constructor
    · intro hne
      obtain ⟨c, hc⟩ := List.exists_mem_of_ne_nil cs hne
      exact ⟨⟨c, hc, ne_of_mem_of_not_mem hc h⟩, Nat.zero_le 1⟩
    · rintro ⟨⟨c, hc, -⟩, -⟩
      exact List.ne_nil_of_mem hc

theorem exists_ne_period_iff :
    (∃ c ∈ numerals cs, c ≠ '.') ↔ 1 ≤ (numerals cs).countP Char.isDigit := by
  rw [Nat.succ_le_iff, List.countP_pos_iff]
  constructor
  · rintro ⟨c, hc, hp⟩
    have hd := (List.mem_filter.1 hc).2
    rw [Bool.or_eq_true, beq_iff_eq, or_iff_left hp] at hd
    exact ⟨c, hc, hd⟩
  · rintro ⟨c, hc, hd⟩
    refine ⟨c, hc, ?_⟩
    rintro rfl
    exact absurd hd (by decide)

theorem isSome_floor?_iff :
    (floor? slot).isSome = true ↔ slot ≠ unsupported ∧
      1 ≤ (numerals slot.toList).countP Char.isDigit ∧ (numerals slot.toList).count '.' ≤ 1 := by
  rw [← exists_ne_period_iff, ← isSome_readNumerals?_iff, floor?]
  by_cases h : slot = unsupported
  · simp [isUnsupported, h]
  · simp [isUnsupported, h]

theorem floor?_congr (h : numerals slot.toList = numerals slot'.toList) :
    floor? slot = floor? slot' := by
  rw [floor?_eq, floor?_eq, spelled?, spelled?, h]

theorem floor?_append_cons (before after : List Char) {c : Char} (hd : c.isDigit = false)
    (hp : c ≠ '.') :
    floor? (.ofList (before ++ c :: after)) = floor? (.ofList (before ++ after)) := by
  apply floor?_congr
  have hc : ¬ (c.isDigit || c == '.') = true := by simp [hd, hp]
  rw [String.toList_ofList, String.toList_ofList, numerals, numerals,
    List.filter_append, List.filter_append,
    List.filter_cons_of_neg (p := fun c => c.isDigit || c == '.') hc]

-- Periods at the ends, other characters and the digits of other scripts.
example : (floor? "1.").isSome ∧ (floor? ".5").isSome ∧ (floor? "No 5*").isSome ∧
    floor? "." = none ∧ floor? "1.2.3" = none ∧ floor? "\u0663" = none := by
  decide +kernel

theorem isPartial_ofFloor? (m : Magnitude) : isPartial (ofFloor? (some m)) = false := by
  have hs : '*' ∉ m.text.toList := by
    cases m with
    | infinite => decide
    | finite n =>
      intro hm
      rw [toList_text_finite] at hm
      rcases isNumeral_of_mem_text hm with hd | hp
      · exact absurd hd (by decide)
      · exact absurd hp (by decide)
  simp [isPartial, ofFloor?, hs]

end Slot

/-- What a slot of minimum versions is. Without a floor among the features it is `No`. Otherwise it
promises full support, from their largest floor on. -/
inductive StandsFor (fs : List Feature) (b : Browser) (slot : String) : Prop where
  | unsupported (h : slot = Slot.unsupported)
      (hn : ∀ f ∈ fs, Slot.floor? (f.support.get b) = none) : StandsFor fs b slot
  | supported (m : Magnitude) (hu : Slot.isUnsupported slot = false)
      (hp : Slot.isPartial slot = false) (hm : IsLargestFloor fs b m)
      (hf : Slot.floor? slot = some m) : StandsFor fs b slot

variable {fs : List Feature} {b : Browser} {f : Feature}

theorem largest?_ne_infinite (h : ∀ f ∈ fs, f ∈ Catalogue.all) :
    largest? (floors fs b) ≠ some .infinite := by
  intro hl
  obtain ⟨f, hf, hi⟩ := mem_floors.1 (largest?_eq_some_iff.1 hl).1
  by_cases hs : f.support.get b = Slot.unsupported
  · rw [hs, Slot.floor?_unsupported] at hi
    cases hi
  · obtain ⟨n, -, hn, -⟩ := (Slot.isRegular_catalogue (h f hf) b).exists_floor? hs
    rw [hn] at hi
    cases hi

theorem floor?_minimumVersions (h : largest? (floors fs b) ≠ some .infinite) :
    Slot.floor? ((minimumVersions fs).get b) = largest? (floors fs b) := by
  rw [get_minimumVersions]
  cases hl : largest? (floors fs b) with
  | none => exact Slot.floor?_unsupported
  | some m =>
    cases m with
    | infinite => exact absurd hl h
    | finite n => exact Slot.floor?_ofFloor? (representable_of_largest? hl)

theorem standsFor_minimumVersions (h : largest? (floors fs b) ≠ some .infinite) :
    StandsFor fs b ((minimumVersions fs).get b) := by
  have hf := floor?_minimumVersions h
  cases hl : largest? (floors fs b) with
  | none =>
    apply StandsFor.unsupported
    · rw [get_minimumVersions, hl]
      rfl
    · exact floors_eq_nil_iff.1 (largest?_eq_none_iff.1 hl)
  | some m =>
    have hs : (minimumVersions fs).get b = Slot.ofFloor? (some m) := by
      rw [get_minimumVersions, hl]
    apply StandsFor.supported m
    · rw [hs]
      exact beq_eq_false_iff_ne.2 (Slot.ofFloor?_ne_unsupported m)
    · rw [hs]
      exact Slot.isPartial_ofFloor? m
    · exact largest?_floors_eq_some_iff.1 hl
    · rw [hf, hl]

theorem minimumVersions_singleton (h : ∀ b, largest? (floors fs b) ≠ some .infinite)
    (hf : f.support = minimumVersions fs) : minimumVersions [f] = minimumVersions fs := by
  have hl (b : Browser) : largest? (floors [f] b) = largest? (floors fs b) := by
    rw [← floor?_minimumVersions (h b), ← hf]
    cases hs : Slot.floor? (f.support.get b) with
    | none => simp [floors, hs, largest?]
    | some m => simp [floors, hs, largest?]
  simp only [minimumVersions, hl]

/-- Which slots have a floor, and that nothing but their numerals decides it. The minimum versions
of catalogued features are slots whose own floors are the largest ones, and to ask for them again
gives the same slots. -/
theorem floors_read_back :
    (∀ slot, (Slot.floor? slot).isSome = true ↔ slot ≠ Slot.unsupported ∧
      1 ≤ (Slot.numerals slot.toList).countP Char.isDigit ∧
        (Slot.numerals slot.toList).count '.' ≤ 1) ∧
    (∀ slot slot', Slot.numerals slot.toList = Slot.numerals slot'.toList →
      Slot.floor? slot = Slot.floor? slot') ∧
    (∀ before after c, c.isDigit = false → c ≠ '.' →
      Slot.floor? (.ofList (before ++ c :: after)) = Slot.floor? (.ofList (before ++ after))) ∧
    ∀ fs, (∀ f ∈ fs, f ∈ Catalogue.all) →
      (∀ b, StandsFor fs b ((minimumVersions fs).get b)) ∧
      ∀ f : Feature, f.support = minimumVersions fs → minimumVersions [f] = minimumVersions fs := by
  refine ⟨fun slot => Slot.isSome_floor?_iff, fun slot slot' => Slot.floor?_congr,
    fun before after c => Slot.floor?_append_cons before after, ?_⟩
  intro fs h
  have hl (b : Browser) : largest? (floors fs b) ≠ some .infinite := largest?_ne_infinite h
  exact ⟨fun b => standsFor_minimumVersions (hl b), fun f => minimumVersions_singleton hl⟩

theorem floors_read_back_let :
    let fs := Catalogue.all.filter fun f => ["let", "async-functions"].contains f.key
    let own : Feature := ⟨"own", "Own", "", minimumVersions fs, none⟩
    (∀ f ∈ fs, f ∈ Catalogue.all) ∧ fs.map (·.support.ie) = ["No", "11*"] ∧
      minimumVersions fs = ⟨"55+", "52+", "10.1+", "15+", "11+"⟩ ∧
      StandsFor fs .internetExplorer "11+" ∧ minimumVersions [own] = minimumVersions fs := by
  intro fs own
  have hfs : ∀ f ∈ fs, f ∈ Catalogue.all := fun f hf => List.mem_of_mem_filter hf
  have hv : minimumVersions fs = ⟨"55+", "52+", "10.1+", "15+", "11+"⟩ := by decide +kernel
  obtain ⟨hs, ho⟩ := floors_read_back.2.2.2 fs hfs
  have hi := hs .internetExplorer
  rw [hv] at hi
  exact ⟨hfs, by decide +kernel, hv, hi, ho own rfl⟩

end ScriptFeatures

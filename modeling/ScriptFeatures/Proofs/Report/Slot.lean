import Mathlib.Data.List.TakeWhile
import Mathlib.Order.WithBot
import ScriptFeatures.Proofs.Decimal.Shortest
import ScriptFeatures.Report

namespace ScriptFeatures

open Decimal (Magnitude Scaled digitsText value)

namespace Decimal

theorem isDigit_of_mem_digitsText {n : ℕ} {c : Char} (h : c ∈ digitsText n) : c.isDigit = true :=
  Nat.isDigit_of_mem_toDigits (by norm_num) le_rfl h

theorem Scaled.text_of_nonneg {d : Scaled} (h : 0 ≤ d.exponent) :
    d.text = digitsText d.digits ++ List.replicate d.exponent.toNat '0' := if_pos h

/-- The digits of `n` behind zeros that fill `places` places. -/
def fractionText (n places : ℕ) : List Char :=
  List.replicate (places - (digitsText n).length) '0' ++ digitsText n

theorem Scaled.text_of_neg {d : Scaled} (h : ¬ 0 ≤ d.exponent) :
    d.text = digitsText (d.digits / 10 ^ d.places) ++
      '.' :: fractionText (d.digits % 10 ^ d.places) d.places := if_neg h

theorem length_fractionText {n places : ℕ} (hp : 0 < places) (h : n < 10 ^ places) :
    (fractionText n places).length = places := by
  have hl : (digitsText n).length ≤ places := (Nat.length_toDigits_le_iff (by norm_num) hp).2 h
  rw [fractionText, List.length_append, List.length_replicate]
  omega

theorem isDigit_of_mem_fractionText {n places : ℕ} {c : Char} (h : c ∈ fractionText n places) :
    c.isDigit = true := by
  rcases List.mem_append.1 h with hz | hd
  · rw [List.eq_of_mem_replicate hz]
    rfl
  · exact isDigit_of_mem_digitsText hd

end Decimal

open Decimal

namespace Slot

theorem readDigits_append (cs ds : List Char) :
    readDigits (cs ++ ds) = readDigits cs * 10 ^ ds.length + readDigits ds := by
  change Nat.ofDigitChars 10 (cs ++ ds) 0 =
    Nat.ofDigitChars 10 cs 0 * 10 ^ ds.length + Nat.ofDigitChars 10 ds 0
  rw [Nat.ofDigitChars_append, Nat.ofDigitChars_eq_ofDigitChars_zero, mul_comm]

theorem readDigits_digitsText (n : ℕ) : readDigits (digitsText n) = n :=
  Nat.ofDigitChars_ten_toDigits

theorem readDigits_zeros (n : ℕ) : readDigits (List.replicate n '0') = 0 :=
  Nat.ofDigitChars_replicate_zero

theorem readDigits_fractionText (n places : ℕ) : readDigits (fractionText n places) = n := by
  rw [fractionText, readDigits_append, readDigits_zeros, readDigits_digitsText, zero_mul, zero_add]

/-- The digits that numerals spell, and how many of them stand behind the period. -/
def spell? (cs : List Char) : Option (ℕ × ℕ) :=
  let whole := cs.takeWhile (· ≠ '.')
  let fraction := (cs.dropWhile (· ≠ '.')).drop 1
  if fraction.contains '.' || (whole ++ fraction).isEmpty then none
  else some (readDigits (whole ++ fraction), fraction.length)

theorem readNumerals?_eq (cs : List Char) :
    readNumerals? cs = (spell? cs).map fun s => .ofDecimal s.1 s.2 := by
  rw [readNumerals?, spell?]
  split_ifs
  · rfl
  · rfl

theorem forall_ne_period {cs : List Char} (h : ∀ c ∈ cs, c.isDigit = true) :
    ∀ c ∈ cs, decide (c ≠ '.') = true := by
  intro c hc
  rw [decide_eq_true_iff]
  rintro rfl
  exact absurd (h _ hc) (by decide)

theorem spell?_of_digits {cs : List Char} (h : ∀ c ∈ cs, c.isDigit = true) (hne : cs ≠ []) :
    spell? cs = some (readDigits cs, 0) := by
  rw [spell?, List.takeWhile_eq_self_iff.2 (forall_ne_period h),
    List.dropWhile_eq_nil_iff.2 (forall_ne_period h)]
  simp [hne]

theorem spell?_of_period {whole fraction : List Char} (hw : ∀ c ∈ whole, c.isDigit = true)
    (hf : ∀ c ∈ fraction, c.isDigit = true) (hne : whole ≠ []) :
    spell? (whole ++ '.' :: fraction) = some (readDigits (whole ++ fraction), fraction.length) := by
  have hp : '.' ∉ fraction := fun hc => absurd (hf _ hc) (by decide)
  rw [spell?, List.takeWhile_append_of_pos (forall_ne_period hw),
    List.dropWhile_append_of_pos (forall_ne_period hw)]
  simp [hne, hp]

theorem spell?_text (d : Scaled) : spell? d.text = some (d.digitsWritten, d.places) := by
  by_cases h : 0 ≤ d.exponent
  · have hd : ∀ c ∈ d.text, c.isDigit = true := by
      intro c hc
      rw [Scaled.text_of_nonneg h, List.mem_append] at hc
      rcases hc with hc | hc
      · exact isDigit_of_mem_digitsText hc
      · rw [List.eq_of_mem_replicate hc]
        rfl
    have hne : d.text ≠ [] := by
      rw [Scaled.text_of_nonneg h]
      exact List.append_ne_nil_of_left_ne_nil Nat.toDigits_ne_nil _
    have hp : d.places = 0 := by
      rw [Scaled.places]
      omega
    rw [spell?_of_digits hd hne, Scaled.text_of_nonneg h, readDigits_append, readDigits_zeros,
      readDigits_digitsText, List.length_replicate, hp]
    rfl
  · have hp : 0 < d.places := by
      rw [Scaled.places]
      omega
    have hl : d.digits % 10 ^ d.places < 10 ^ d.places := Nat.mod_lt _ (by positivity)
    have hw : d.digitsWritten = d.digits := by
      rw [Scaled.digitsWritten, Int.toNat_of_nonpos (by omega), pow_zero, mul_one]
    rw [Scaled.text_of_neg h, spell?_of_period (fun _ => isDigit_of_mem_digitsText)
      (fun _ => isDigit_of_mem_fractionText) Nat.toDigits_ne_nil, readDigits_append,
      readDigits_digitsText, readDigits_fractionText, length_fractionText hp hl,
      Nat.div_add_mod', hw]

theorem isNumeral_of_mem_text {d : Scaled} {c : Char} (hc : c ∈ d.text) :
    c.isDigit = true ∨ c = '.' := by
  by_cases h : 0 ≤ d.exponent
  · rw [Scaled.text_of_nonneg h, List.mem_append] at hc
    rcases hc with hc | hc
    · exact .inl (isDigit_of_mem_digitsText hc)
    · rw [List.eq_of_mem_replicate hc]
      exact .inl rfl
  · rw [Scaled.text_of_neg h, List.mem_append, List.mem_cons] at hc
    rcases hc with hc | rfl | hc
    · exact .inl (isDigit_of_mem_digitsText hc)
    · exact .inr rfl
    · exact .inl (isDigit_of_mem_fractionText hc)

def spelled? (slot : String) : Option (ℕ × ℕ) := spell? (numerals slot.toList)

/-- The number that one sees in a slot: what its digits and periods spell, as it stands. -/
def number? (slot : String) : Option ℚ := (spelled? slot).map fun s => value s.1 s.2

theorem floor?_eq (slot : String) :
    floor? slot = (spelled? slot).map fun s => .ofDecimal s.1 s.2 := by
  rw [floor?]
  split_ifs with h
  · obtain rfl : slot = unsupported := eq_of_beq h
    rfl
  · exact readNumerals?_eq _

theorem representable_of_floor? {slot : String} {m : Magnitude} (h : floor? slot = some m) :
    m.Representable := by
  rw [floor?_eq] at h
  obtain ⟨s, -, rfl⟩ := Option.map_eq_some_iff.1 h
  exact Magnitude.representable_ofDecimal s.1 s.2

theorem toList_text_finite (n : ℕ) :
    (Magnitude.finite n).text.toList = (shortest n).text := String.toList_ofList

theorem spelled?_ofFloor?_finite (n : ℕ) :
    spelled? (ofFloor? (some (.finite n))) =
      some ((shortest n).digitsWritten, (shortest n).places) := by
  have hn : numerals (ofFloor? (some (.finite n))).toList = (shortest n).text := by
    rw [ofFloor?, String.toList_append, toList_text_finite, numerals, List.filter_append]
    have hs : (shortest n).text.filter (fun c => c.isDigit || c == '.') = (shortest n).text := by
      rw [List.filter_eq_self]
      intro c hc
      simpa using isNumeral_of_mem_text hc
    rw [hs]
    exact List.append_nil _
  rw [spelled?, hn, spell?_text]

theorem ofFloor?_ne_unsupported (m : Magnitude) : ofFloor? (some m) ≠ unsupported := by
  intro h
  have hp : '+' ∈ unsupported.toList := by
    rw [← h, ofFloor?, String.toList_append]
    exact List.mem_append_right _ (.head _)
  exact absurd hp (by decide)

/-- A printed slot has the number that it is made from as its floor. -/
theorem floor?_ofFloor? {n : ℕ} (h : (Magnitude.finite n).Representable) :
    floor? (ofFloor? (some (.finite n))) = some (.finite n) := by
  obtain ⟨hs, hl⟩ := h n rfl
  rw [floor?_eq, spelled?_ofFloor?_finite, Option.map_some, ofDecimal_shortest hs hl]

/-- The number that a printed slot shows; past the largest finite number it is infinity. -/
def printed? (slot : String) : Option (WithTop ℚ) :=
  if slot = ofFloor? (some .infinite) then some ⊤ else (number? slot).map (↑)

theorem printed?_infinite : printed? (ofFloor? (some .infinite)) = some ⊤ := if_pos rfl

theorem printed?_finite (n : ℕ) :
    printed? (ofFloor? (some (.finite n))) = some ((shortest n).number : ℚ) := by
  have hne : ofFloor? (some (.finite n)) ≠ ofFloor? (some .infinite) := by
    intro h
    have hs := spelled?_ofFloor?_finite n
    rw [h] at hs
    cases hs
  rw [printed?, if_neg hne, number?, spelled?_ofFloor?_finite]
  rfl

theorem exists_printed?_le {m n : Magnitude} (hm : m.Representable) (hn : n.Representable)
    (h : m ≤ n) : ∃ x y, printed? (ofFloor? (some m)) = some x ∧
      printed? (ofFloor? (some n)) = some y ∧ x ≤ y := by
  cases n with
  | infinite =>
    cases m with
    | infinite => exact ⟨⊤, ⊤, printed?_infinite, printed?_infinite, le_rfl⟩
    | finite m => exact ⟨_, ⊤, printed?_finite m, printed?_infinite, le_top⟩
  | finite n =>
    cases m with
    | infinite => exact (Magnitude.not_infinite_le_finite n h).elim
    | finite m =>
      refine ⟨_, _, printed?_finite m, printed?_finite n, WithTop.coe_le_coe.2 ?_⟩
      exact number_shortest_le (hm m rfl).1 (hn n rfl).1 (Magnitude.finite_le_finite.1 h)

end Slot
end ScriptFeatures

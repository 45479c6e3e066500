import Mathlib.Tactic.NormNum
import ScriptFeatures.Decimal.Shortest
import ScriptFeatures.Proofs.Decimal.Rounding

namespace ScriptFeatures.Decimal

open Magnitude

/-- The reals that round to `k * 2 ^ j`, the ends being its own if `k` is even. Below a power of
two they reach half as far down. -/
structure RoundingInterval (j k : ℕ) (y : ℚ) : Prop where
  low : (k - if j ≠ 0 ∧ k = 2 ^ 52 then 1 / 4 else 1 / 2) * 2 ^ j ≤ y
  high : y ≤ (k + 1 / 2) * 2 ^ j
  even : y = (k - 1 / 2) * 2 ^ j ∨ y = (k + 1 / 2) * 2 ^ j → k % 2 = 0

theorem nearest_div_pow {j k : ℕ} {y : ℚ} :
    Nearest (y / 2 ^ j) k ↔ (k - 1 / 2) * 2 ^ j ≤ y ∧ y ≤ (k + 1 / 2) * 2 ^ j ∧
      (y = (k - 1 / 2) * 2 ^ j ∨ y = (k + 1 / 2) * 2 ^ j → k % 2 = 0) := by
  have hp : (0 : ℚ) < 2 ^ j := by positivity
  have hiff : Nearest (y / 2 ^ j) k ↔ ((k : ℚ) - 1 / 2 ≤ y / 2 ^ j) ∧ y / 2 ^ j ≤ k + 1 / 2 ∧
      (y / 2 ^ j = k - 1 / 2 ∨ y / 2 ^ j = k + 1 / 2 → k % 2 = 0) :=
    ⟨fun h => ⟨h.below, h.above, h.even⟩, fun h => ⟨h.1, h.2.1, h.2.2⟩⟩
  rw [hiff, le_div_iff₀ hp, div_le_iff₀ hp, div_eq_iff hp.ne', div_eq_iff hp.ne']

theorem rounds_mul_pow {j k : ℕ} {y : ℚ} (hy : 0 ≤ y) (hl : j = 0 ∨ 2 ^ 52 * 2 ^ j ≤ y)
    (hu : y < 2 ^ 53 * 2 ^ j) (hn : Nearest (y / 2 ^ j) k) : Rounds y (k * 2 ^ j) := by
  have hs : spacing ⌊y⌋₊ = 2 ^ j := spacing_floor_eq hy hl hu
  refine ⟨k, by rw [hs], ?_⟩
  rw [hs]
  push_cast
  exact hn

variable {j k : ℕ} {y : ℚ}

theorem significand_bounds (hs : spacing (k * 2 ^ j) = 2 ^ j) :
    (j = 0 ∨ 2 ^ 52 ≤ k) ∧ k < 2 ^ 53 := by
  obtain ⟨hl, hu⟩ := spacing_bounds (k * 2 ^ j)
  rw [hs] at hl hu
  have hp : 0 < 2 ^ j := by positivity
  refine ⟨hl.imp (fun h1 => ?_) fun hl => Nat.le_of_mul_le_mul_right hl hp,
    Nat.lt_of_mul_lt_mul_right hu⟩
  exact Nat.pow_right_injective le_rfl (h1.trans (pow_zero 2).symm)

theorem rounds_below_power {i : ℕ} (hy : 0 ≤ y)
    (hl : ((2 ^ 52 : ℚ) - 1 / 4) * 2 ^ (i + 1) ≤ y) (hlt : y < 2 ^ 52 * 2 ^ (i + 1)) :
    Rounds y (2 ^ 52 * 2 ^ (i + 1)) := by
  have he : 2 ^ 52 * 2 ^ (i + 1) = 2 ^ 53 * 2 ^ i := by ring
  have hp : (0 : ℚ) < 2 ^ i := by positivity
  rw [pow_succ (2 : ℚ) i] at hl hlt
  rw [he]
  apply rounds_mul_pow hy
  · right
    linarith
  · linarith
  · rw [nearest_div_pow]
    push_cast
    exact ⟨by linarith, by linarith, fun _ => by norm_num⟩

theorem RoundingInterval.rounds (hs : spacing (k * 2 ^ j) = 2 ^ j) (hy : 0 ≤ y)
    (h : RoundingInterval j k y) : Rounds y (k * 2 ^ j) := by
  obtain ⟨hkl, hku⟩ := significand_bounds hs
  have hku' : (k : ℚ) + 1 ≤ 2 ^ 53 := by exact_mod_cast hku
  by_cases hlow : j ≠ 0 ∧ k = 2 ^ 52 ∧ y < k * 2 ^ j
  · obtain ⟨hj, rfl, hlt⟩ := hlow
    obtain ⟨i, rfl⟩ := Nat.exists_eq_succ_of_ne_zero hj
    have hl := h.low
    rw [if_pos ⟨hj, rfl⟩] at hl
    push_cast at hl hlt
    exact rounds_below_power hy hl hlt
  · have hl : ((k : ℚ) - 1 / 2) * 2 ^ j ≤ y := by
      have hl := h.low
      split_ifs at hl with hc
      · have hp : (0 : ℚ) < 2 ^ j := by positivity
        have hlt : ¬ y < k * 2 ^ j := fun hlt => hlow ⟨hc.1, hc.2, hlt⟩
        linarith
      · exact hl
    apply rounds_mul_pow hy
    · by_cases hj : j = 0
      · exact .inl hj
      right
      have hkl' : 2 ^ 52 ≤ k := hkl.resolve_left hj
      by_cases hlt : y < k * 2 ^ j
      · -- the number is not the least one of its spacing, or the first case would apply
        have hne : k ≠ 2 ^ 52 := fun he => hlow ⟨hj, he, hlt⟩
        have hk : (2 : ℚ) ^ 52 + 1 ≤ k := by exact_mod_cast Nat.lt_of_le_of_ne hkl' hne.symm
        calc (2 : ℚ) ^ 52 * 2 ^ j ≤ (k - 1 / 2) * 2 ^ j := by gcongr; linarith
          _ ≤ y := hl
      · have hk : (2 : ℚ) ^ 52 ≤ k := by exact_mod_cast hkl'
        calc (2 : ℚ) ^ 52 * 2 ^ j ≤ k * 2 ^ j := by gcongr
          _ ≤ y := not_lt.1 hlt
    · calc y ≤ (k + 1 / 2) * 2 ^ j := h.high
        _ < 2 ^ 53 * 2 ^ j := by gcongr; linarith
    · exact nearest_div_pow.2 ⟨hl, h.high, h.even⟩

theorem roundingInterval_of_rounds (hs : spacing (k * 2 ^ j) = 2 ^ j) (hy : 0 ≤ y)
    (h : Rounds y (k * 2 ^ j)) : RoundingInterval j k y := by
  have hp : (0 : ℚ) < 2 ^ j := by positivity
  have hse := h.spacing_eq hy
  obtain ⟨l, hl, hn⟩ := h
  obtain ⟨i, hi⟩ := exists_spacing_eq_pow ⌊y⌋₊
  rw [hs, hi] at hse
  rw [hi] at hl hn
  push_cast at hn
  obtain ⟨hlow, hhigh, heven⟩ := nearest_div_pow.1 hn
  rcases hse with he | ⟨hm, he⟩
  · obtain rfl : j = i := Nat.pow_right_injective le_rfl he
    obtain rfl : k = l := Nat.eq_of_mul_eq_mul_right (by positivity) hl
    refine ⟨?_, hhigh, heven⟩
    split_ifs with hc
    · -- `y` has the spacing of the power of two, and is not below it
      have hb := (spacing_bounds ⌊y⌋₊).1
      rw [hi] at hb
      have h1 : 2 ^ j ≠ 1 := (Nat.one_lt_two_pow hc.1).ne'
      have hf : ((2 ^ 52 * 2 ^ j : ℕ) : ℚ) ≤ y :=
        (Nat.cast_le.2 (hb.resolve_left h1)).trans (Nat.floor_le hy)
      push_cast at hf
      rw [hc.2]
      push_cast
      linarith
    · exact hlow
  · rw [← pow_succ'] at he
    obtain rfl : j = i + 1 := Nat.pow_right_injective le_rfl he
    obtain rfl : l = 2 ^ 53 := Nat.eq_of_mul_eq_mul_right (by positivity) (hl.symm.trans hm)
    have hk : k * 2 ^ (i + 1) = 2 ^ 52 * 2 ^ (i + 1) := by
      rw [hm]
      ring
    obtain rfl : k = 2 ^ 52 := Nat.eq_of_mul_eq_mul_right (by positivity) hk
    have hp' : (0 : ℚ) < 2 ^ i := by positivity
    push_cast at hlow hhigh
    refine ⟨?_, ?_, fun _ => by norm_num⟩
    · rw [if_pos ⟨Nat.succ_ne_zero i, rfl⟩, pow_succ (2 : ℚ) i]
      push_cast
      linarith
    · rw [pow_succ (2 : ℚ) i]
      push_cast
      linarith

namespace Interval

theorem contains_iff (i : Interval) {x scale : ℕ} (hs : 0 < scale) :
    i.contains x scale = true ↔ (i.low : ℚ) ≤ x / scale ∧ (x : ℚ) / scale ≤ i.high ∧
      ((x : ℚ) / scale = i.low ∨ (x : ℚ) / scale = i.high → i.closed = true) := by
  have hs' : (0 : ℚ) < scale := by exact_mod_cast hs
  rw [le_div_iff₀ hs', div_le_iff₀ hs', div_eq_iff hs'.ne', div_eq_iff hs'.ne', contains]
  norm_cast
  cases i.closed with
  | true => simp
  | false =>
    simp
    omega

theorem isPower_iff (hs : spacing (k * 2 ^ j) = 2 ^ j) (hk : 0 < k) :
    2 ^ j ≠ 1 ∧ k * 2 ^ j = Nat.pow 2 (k * 2 ^ j).log2 ↔ j ≠ 0 ∧ k = 2 ^ 52 := by
  have hp : 0 < 2 ^ j := by positivity
  have hj : 2 ^ j ≠ 1 ↔ j ≠ 0 := by simp
  obtain ⟨hl, hu⟩ := significand_bounds hs
  rw [hj]
  refine and_congr_right fun h => ?_
  have hlog : (k * 2 ^ j).log2 = 52 + j := by
    rw [Nat.log2_eq_iff (by positivity), pow_add, Nat.add_right_comm, pow_add]
    exact ⟨Nat.mul_le_mul_right _ (hl.resolve_left h), Nat.mul_lt_mul_of_pos_right hu hp⟩
  rw [hlog]
  change k * 2 ^ j = 2 ^ (52 + j) ↔ k = 2 ^ 52
  rw [pow_add, Nat.mul_left_inj hp.ne']

theorem closed_ofUnits (hs : spacing (k * 2 ^ j) = 2 ^ j) :
    (ofUnits (k * 2 ^ j)).closed = true ↔ k % 2 = 0 := by
  have hp : 0 < 2 ^ j := by positivity
  simp only [ofUnits, hs, Nat.mul_div_cancel _ hp, decide_eq_true_eq]

theorem high_ofUnits (hs : spacing (k * 2 ^ j) = 2 ^ j) :
    ((ofUnits (k * 2 ^ j)).high : ℚ) = 4 * ((k + 1 / 2) * 2 ^ j) := by
  simp only [ofUnits, hs]
  push_cast
  ring

theorem low_ofUnits (hs : spacing (k * 2 ^ j) = 2 ^ j) (hk : 0 < k) :
    ((ofUnits (k * 2 ^ j)).low : ℚ) =
      4 * ((k - if j ≠ 0 ∧ k = 2 ^ 52 then 1 / 4 else 1 / 2) * 2 ^ j) := by
  have hle : 2 ^ j ≤ k * 2 ^ j := Nat.le_mul_of_pos_left _ hk
  simp only [ofUnits, hs, isPower_iff hs hk]
  split_ifs with hc
  · rw [Nat.cast_sub (by omega)]
    push_cast
    ring
  · rw [Nat.cast_sub (by omega)]
    push_cast
    ring

theorem contains_ofUnits (hs : spacing (k * 2 ^ j) = 2 ^ j) (hk : 0 < k) {x scale : ℕ}
    (hsc : 0 < scale) :
    (ofUnits (k * 2 ^ j)).contains x scale = true ↔
      RoundingInterval j k (x / (4 * scale : ℕ)) := by
  have hp : (0 : ℚ) < 2 ^ j := by positivity
  have hy : (x : ℚ) / scale = 4 * (x / (4 * scale : ℕ)) := by
    push_cast
    field_simp
  rw [contains_iff _ hsc, closed_ofUnits hs, high_ofUnits hs, low_ofUnits hs hk, hy]
  generalize (x : ℚ) / (4 * scale : ℕ) = y
  have h4 {a b : ℚ} : 4 * a = 4 * b ↔ a = b := mul_right_inj' four_ne_zero
  -- the significand of a power of two is even, and so both forms of the lower end ask for nothing
  have heven : (y = (k - if j ≠ 0 ∧ k = 2 ^ 52 then 1 / 4 else 1 / 2) * 2 ^ j ∨
      y = (k + 1 / 2) * 2 ^ j → k % 2 = 0) ↔
      (y = (k - 1 / 2) * 2 ^ j ∨ y = (k + 1 / 2) * 2 ^ j → k % 2 = 0) := by
    split_ifs with hc
    · have hk2 : k % 2 = 0 := by
        rw [hc.2]
        norm_num
      exact iff_of_true (fun _ => hk2) fun _ => hk2
    · rfl
  rw [h4, h4, heven]
  constructor
  · rintro ⟨hl, hh, he⟩
    exact ⟨by linarith, by linarith, he⟩
  · rintro ⟨hl, hh, he⟩
    exact ⟨by linarith, by linarith, he⟩

/-- The interval of a number is what rounds to it. -/
theorem contains_iff_rounds {n : ℕ} (hs : spacing n ∣ n) (hn : 0 < n) {x scale : ℕ}
    (hsc : 0 < scale) :
    (ofUnits n).contains x scale = true ↔ Rounds (x / (4 * scale : ℕ)) n := by
  obtain ⟨j, hj⟩ := exists_spacing_eq_pow n
  obtain ⟨k, hk⟩ := hs
  rw [hj, mul_comm] at hk
  subst hk
  have hk : 0 < k := Nat.pos_of_mul_pos_right hn
  have hy : (0 : ℚ) ≤ x / (4 * scale : ℕ) := by positivity
  rw [contains_ofUnits hj hk hsc]
  exact ⟨fun h => h.rounds hj hy, roundingInterval_of_rounds hj hy⟩

/-- Multiples of `10 ^ e`, in quarters of a unit, are multiples of `grid e / scale e`. -/
def grid (e : ℤ) : ℕ := 10 ^ e.toNat * (4 * unitsInOne)

def scale (e : ℤ) : ℕ := 10 ^ (-e).toNat

theorem grid_pos (e : ℤ) : 0 < grid e :=
  Nat.mul_pos (by positivity) (Nat.mul_pos four_pos unitsInOne_pos)

theorem scale_pos (e : ℤ) : 0 < scale e := by
  rw [scale]
  positivity

theorem decimalAt?_eq (i : Interval) (e : ℤ) :
    i.decimalAt? e =
      let k := i.value * scale e / grid e
      let lower := i.contains (k * grid e) (scale e)
      let upper := i.contains ((k + 1) * grid e) (scale e)
      if lower && upper then
        if (i.value * scale e - k * grid e) * 2 < grid e then some ⟨k, e⟩ else some ⟨k + 1, e⟩
      else if lower then some ⟨k, e⟩
      else if upper then some ⟨k + 1, e⟩
      else none := by
  have h : Nat.pow 2 1076 = 4 * unitsInOne := by decide +kernel
  rw [decimalAt?, h]
  rfl

theorem contains_of_decimalAt? {i : Interval} {e : ℤ} {d : Scaled} (h : i.decimalAt? e = some d) :
    d.exponent = e ∧ i.contains (d.digits * grid e) (scale e) = true := by
  rw [decimalAt?_eq] at h
  simp only [Bool.and_eq_true] at h
  split_ifs at h with hb hn hl hu
  · cases h
    exact ⟨rfl, hb.1⟩
  · cases h
    exact ⟨rfl, hb.2⟩
  · cases h
    exact ⟨rfl, hl⟩
  · cases h
    exact ⟨rfl, hu⟩

theorem exists_decimalAt? {i : Interval} {e : ℤ}
    (h : i.contains (i.value * scale e / grid e * grid e) (scale e) = true) :
    ∃ d, i.decimalAt? e = some d := by
  rw [decimalAt?_eq]
  simp only [h, Bool.true_and, ↓reduceIte]
  split_ifs
  · exact ⟨_, rfl⟩
  · exact ⟨_, rfl⟩
  · exact ⟨_, rfl⟩

theorem exists_decimalAt?_of_dvd {n : ℕ} (hs : spacing n ∣ n) (hn : 0 < n) {e : ℤ}
    (hg : grid e ∣ 4 * scale e) : ∃ d, (ofUnits n).decimalAt? e = some d := by
  have hv : (ofUnits n).value * scale e = n * (4 * scale e) := by
    rw [ofUnits]
    ring
  have h0 : ((4 * scale e : ℕ) : ℚ) ≠ 0 := by
    exact_mod_cast (Nat.mul_pos four_pos (scale_pos e)).ne'
  apply exists_decimalAt?
  rw [hv, Nat.div_mul_cancel (Nat.dvd_mul_left_of_dvd hg n),
    contains_iff_rounds hs hn (scale_pos e), Nat.cast_mul, mul_div_cancel_right₀ _ h0]
  exact rounds_self hs

end Interval

open Decimal.Interval

theorem mem_candidateExponents {e : ℤ} : e ∈ candidateExponents ↔ -1074 ≤ e ∧ e ≤ 309 := by
  rw [candidateExponents, List.mem_map]
  constructor
  · rintro ⟨i, hi, rfl⟩
    rw [List.mem_range] at hi
    omega
  · rintro ⟨hl, hu⟩
    refine ⟨(309 - e).toNat, ?_, ?_⟩
    · rw [List.mem_range]
      omega
    · omega

theorem pairwise_candidateExponents : candidateExponents.Pairwise (· > ·) := by
  rw [candidateExponents, List.pairwise_map]
  refine List.pairwise_lt_range.imp ?_
  intro a b h
  omega

theorem shortest_of_decimalAt? {n : ℕ} (hn : 0 < n) {e : ℤ} {d : Scaled}
    (he : e ∈ candidateExponents) (hd : (ofUnits n).decimalAt? e = some d)
    (hlarger : ∀ e' > e, (ofUnits n).decimalAt? e' = none) : shortest n = d := by
  obtain ⟨before, after, h⟩ := List.append_of_mem he
  have hp := pairwise_candidateExponents
  rw [h, List.pairwise_append] at hp
  have hs : candidateExponents.findSome? (ofUnits n).decimalAt? = some d :=
    List.findSome?_eq_some_iff.2 ⟨before, e, after, h, hd, fun e' he' =>
      hlarger e' (hp.2.2 e' he' e List.mem_cons_self)⟩
  rw [shortest, if_neg hn.ne', hs]
  rfl

theorem decimalAt?_shortest {n : ℕ} (hs : spacing n ∣ n) (hn : 0 < n) :
    (ofUnits n).decimalAt? (shortest n).exponent = some (shortest n) := by
  have hg : grid (-1074) ∣ 4 * scale (-1074) := by decide +kernel
  obtain ⟨d, hd⟩ := exists_decimalAt?_of_dvd hs hn hg
  cases hf : candidateExponents.findSome? (ofUnits n).decimalAt? with
  | none =>
    have hm : (-1074 : ℤ) ∈ candidateExponents := mem_candidateExponents.2 (by omega)
    rw [List.findSome?_eq_none_iff.1 hf _ hm] at hd
    cases hd
  | some d' =>
    have he : shortest n = d' := by
      rw [shortest, if_neg hn.ne', hf]
      rfl
    obtain ⟨_, e, _, _, hd', _⟩ := List.findSome?_eq_some_iff.1 hf
    rw [he, (contains_of_decimalAt? hd').1]
    exact hd'

def powerUnits (e : ℤ) : ℚ := 10 ^ e * unitsInOne

theorem powerUnits_pos (e : ℤ) : 0 < powerUnits e := by
  have hu : (0 : ℚ) < unitsInOne := by exact_mod_cast unitsInOne_pos
  exact mul_pos (zpow_pos (by norm_num) e) hu

theorem powerUnits_add (e : ℤ) (m : ℕ) : powerUnits (e + m) = 10 ^ m * powerUnits e := by
  rw [powerUnits, powerUnits, zpow_add₀ (by norm_num), zpow_natCast]
  ring

theorem powerUnits_eq (e : ℤ) : powerUnits e = 10 ^ e.toNat / 10 ^ (-e).toNat * unitsInOne := by
  rw [powerUnits]
  congr 1
  rcases le_total 0 e with h | h
  · obtain ⟨m, rfl⟩ := Int.eq_ofNat_of_zero_le h
    simp
  · obtain ⟨m, hm⟩ := Int.eq_ofNat_of_zero_le (Int.neg_nonneg.2 h)
    obtain rfl : e = -(m : ℤ) := by omega
    simp

theorem div_grid (d : ℕ) (e : ℤ) :
    ((d * grid e : ℕ) : ℚ) / (4 * scale e : ℕ) = d * powerUnits e := by
  have h0 : (10 : ℚ) ^ (-e).toNat ≠ 0 := by positivity
  rw [powerUnits_eq, grid, scale]
  push_cast
  field_simp

theorem one_lt_powerUnits {e : ℤ} (h : -200 ≤ e) : 1 < powerUnits e := by
  have hu : 10 ^ 200 < unitsInOne := by decide +kernel
  have hu' : (10 : ℚ) ^ 200 < unitsInOne := by
    rw [← Nat.cast_lt (α := ℚ), Nat.cast_pow] at hu
    exact hu
  have hp : (0 : ℚ) < 10 ^ (-200 : ℤ) := zpow_pos (by norm_num) _
  have h1 : (10 : ℚ) ^ (-200 : ℤ) * 10 ^ 200 = 1 := by
    rw [zpow_neg]
    exact inv_mul_cancel₀ (by positivity)
  calc (1 : ℚ) = 10 ^ (-200 : ℤ) * 10 ^ 200 := h1.symm
    _ < 10 ^ (-200 : ℤ) * unitsInOne := mul_lt_mul_of_pos_left hu' hp
    _ ≤ 10 ^ e * unitsInOne :=
      mul_le_mul_of_nonneg_right (zpow_le_zpow_right₀ (by norm_num) h) (Nat.cast_nonneg _)

theorem floor_div_powerUnits (n : ℕ) (e : ℤ) :
    ⌊(n : ℚ) / powerUnits e⌋₊ = 4 * n * scale e / grid e := by
  have hg : ((1 * grid e : ℕ) : ℚ) / (4 * scale e : ℕ) = (1 : ℕ) * powerUnits e := div_grid 1 e
  have h0 : (grid e : ℚ) ≠ 0 := by exact_mod_cast (grid_pos e).ne'
  have h1 : (scale e : ℚ) ≠ 0 := by exact_mod_cast (scale_pos e).ne'
  have hq : (n : ℚ) / powerUnits e = (4 * n * scale e : ℕ) / (grid e : ℕ) := by
    rw [Nat.cast_one, one_mul, one_mul] at hg
    rw [← hg]
    push_cast
    field_simp
  rw [hq, Nat.floor_div_eq_div]

/-- The digits of a decimal that is written out, and how many of them stand behind the period. -/
def Scaled.digitsWritten (d : Scaled) : ℕ := d.digits * 10 ^ d.exponent.toNat

def Scaled.places (d : Scaled) : ℕ := (-d.exponent).toNat

theorem units_written (d : Scaled) :
    units d.digitsWritten d.places = d.digits * powerUnits d.exponent := by
  rw [units, value, powerUnits_eq, Scaled.digitsWritten, Scaled.places]
  push_cast
  ring

theorem contains_iff_rounds_written {n : ℕ} (hs : spacing n ∣ n) (hn : 0 < n) {d : ℕ} {e : ℤ} :
    (ofUnits n).contains (d * grid e) (scale e) = true ↔ Rounds (d * powerUnits e) n := by
  rw [contains_iff_rounds hs hn (scale_pos e), div_grid]

def Scaled.number (d : Scaled) : ℚ := value d.digitsWritten d.places

theorem rounds_shortest {n : ℕ} (hs : spacing n ∣ n) :
    Rounds (units (shortest n).digitsWritten (shortest n).places) n := by
  rw [units_written]
  by_cases hn : n = 0
  · have hz : (shortest n).digits = 0 := by rw [hn, shortest, if_pos rfl]
    rw [hz, hn, Nat.cast_zero, zero_mul]
    exact rounds_self (Nat.dvd_zero _)
  · have hn' : 0 < n := Nat.pos_of_ne_zero hn
    have hc := (contains_of_decimalAt? (decimalAt?_shortest hs hn')).2
    exact (contains_iff_rounds_written hs hn').1 hc

/-- The shortest decimal of a number is read as the number. -/
theorem ofDecimal_shortest {n : ℕ} (hs : spacing n ∣ n) (hl : n < limit) :
    ofDecimal (shortest n).digitsWritten (shortest n).places = .finite n := by
  rw [ofDecimal_of_rounds (rounds_shortest hs), if_pos hl]

theorem number_shortest_le {m n : ℕ} (hm : spacing m ∣ m) (hn : spacing n ∣ n) (h : m ≤ n) :
    (shortest m).number ≤ (shortest n).number := by
  rcases Nat.lt_or_eq_of_le h with hlt | rfl
  · by_contra hle
    have hu : units (shortest n).digitsWritten (shortest n).places ≤
        units (shortest m).digitsWritten (shortest m).places :=
      mul_le_mul_of_nonneg_right (not_le.1 hle).le (Nat.cast_nonneg _)
    have hnm := (rounds_shortest hn).le_of_le (units_nonneg _ _) (rounds_shortest hm) hu
    omega
  · exact le_rfl

theorem abs_sub_le_spacing {x y : ℚ} {n : ℕ} (hx : 0 ≤ x) (hy : 0 ≤ y) (hxn : Rounds x n)
    (hyn : Rounds y n) : |x - y| ≤ spacing n := by
  have h₁ := abs_le.1 (hxn.abs_sub_le hx)
  have h₂ := abs_le.1 (hyn.abs_sub_le hy)
  rw [abs_le]
  constructor <;> linarith

section FewDigits

variable {d n : ℕ} {e : ℤ}

/-- A decimal of few digits is read as a number that lies closer to its neighbours than the
decimal does. -/
theorem spacing_lt_powerUnits (hd : d < 2 ^ 52) (he : 1 < powerUnits e)
    (h : Rounds (d * powerUnits e) n) : (spacing n : ℚ) < powerUnits e := by
  rcases (spacing_bounds n).1 with h1 | hle
  · rw [h1, Nat.cast_one]
    exact he
  · by_contra hge
    have hg := not_lt.1 hge
    have hx : (0 : ℚ) ≤ d * powerUnits e := mul_nonneg (Nat.cast_nonneg d) (powerUnits_pos e).le
    have hab := abs_le.1 (h.abs_sub_le hx)
    have hle' : (2 ^ 52 * spacing n : ℚ) ≤ n := by exact_mod_cast hle
    have hd' : (d : ℚ) + 1 ≤ 2 ^ 52 := by exact_mod_cast hd
    have hs : (0 : ℚ) < spacing n := by exact_mod_cast spacing_pos n
    have hm : d * powerUnits e ≤ d * spacing n := by gcongr
    have hm' : ((d : ℚ) + 1) * spacing n ≤ 2 ^ 52 * spacing n := by gcongr
    linarith

theorem digits_eq_of_rounds {d' : ℕ} (hs : (spacing n : ℚ) < powerUnits e)
    (h : Rounds (d * powerUnits e) n) (h' : Rounds (d' * powerUnits e) n) : d = d' := by
  have hp := powerUnits_pos e
  have hab := abs_sub_le_spacing (by positivity) (by positivity) h h'
  rw [← sub_mul, abs_mul, abs_of_pos hp] at hab
  have hlt : |(d : ℚ) - d'| < 1 := by
    by_contra hge
    have hm : 1 * powerUnits e ≤ |(d : ℚ) - d'| * powerUnits e := by
      gcongr
      exact not_lt.1 hge
    linarith
  obtain ⟨hl, hu⟩ := abs_lt.1 hlt
  have h₁ : (d : ℚ) < d' + 1 := by linarith
  have h₂ : (d' : ℚ) < d + 1 := by linarith
  have h₁' : d < d' + 1 := by exact_mod_cast h₁
  have h₂' : d' < d + 1 := by exact_mod_cast h₂
  omega

/-- The multiple of `10 ^ e` below a number is a decimal that is read as the number, or the one
before that. -/
theorem div_grid_near (hlt : (spacing n : ℚ) < powerUnits e) (h : Rounds (d * powerUnits e) n) :
    4 * n * scale e / grid e = d ∨ 4 * n * scale e / grid e + 1 = d := by
  have hp := powerUnits_pos e
  have hs : (0 : ℚ) < spacing n := by exact_mod_cast spacing_pos n
  obtain ⟨hb, ha⟩ := abs_le.1 (h.abs_sub_le (by positivity))
  have hl : (d : ℚ) - 1 < n / powerUnits e := by
    rw [lt_div_iff₀ hp]
    linarith
  have hu : (n : ℚ) / powerUnits e < d + 1 := by
    rw [div_lt_iff₀ hp]
    linarith
  have hfl := Nat.floor_le (show (0 : ℚ) ≤ n / powerUnits e by positivity)
  have hfu := Nat.lt_floor_add_one ((n : ℚ) / powerUnits e)
  rw [← floor_div_powerUnits]
  generalize ⌊(n : ℚ) / powerUnits e⌋₊ = k at hfl hfu
  have h₁ : (k : ℚ) < d + 1 := by linarith
  have h₂ : (d : ℚ) < k + 2 := by linarith
  have h₁' : k < d + 1 := by exact_mod_cast h₁
  have h₂' : d < k + 2 := by exact_mod_cast h₂
  omega

theorem decimalAt?_of_rounds (hn : 0 < n) (hs : spacing n ∣ n)
    (hlt : (spacing n : ℚ) < powerUnits e) (h : Rounds (d * powerUnits e) n) :
    (ofUnits n).decimalAt? e = some ⟨d, e⟩ := by
  have hcontains (d' : ℕ) :
      (ofUnits n).contains (d' * grid e) (scale e) = true ↔ d' = d := by
    rw [contains_iff_rounds_written hs hn]
    exact ⟨fun h' => digits_eq_of_rounds hlt h' h, fun he => he ▸ h⟩
  have hv : (ofUnits n).value = 4 * n := rfl
  rw [decimalAt?_eq, hv]
  simp only [Bool.and_eq_true, hcontains]
  rcases div_grid_near hlt h with hk | hk
  · rw [hk]
    simp
  · have hne : 4 * n * scale e / grid e ≠ d := by omega
    rw [if_neg fun hb => hne hb.1, if_neg hne, if_pos hk, hk]

/-- A decimal of few digits that does not end in a zero is the shortest one of the number that it
is read as. -/
theorem shortest_of_rounds (hd : d % 10 ≠ 0) (hd' : d < 2 ^ 52) (hl : -200 ≤ e) (hu : e ≤ 309)
    (h : Rounds (d * powerUnits e) n) : shortest n = ⟨d, e⟩ := by
  have hx : 0 ≤ d * powerUnits e := mul_nonneg (Nat.cast_nonneg d) (powerUnits_pos e).le
  have hs : spacing n ∣ n := h.spaced hx
  have hp : 1 < powerUnits e := one_lt_powerUnits hl
  have hlt := spacing_lt_powerUnits hd' hp h
  have hn : 0 < n := by
    apply Nat.pos_of_ne_zero
    rintro rfl
    have hab := (abs_le.1 (h.abs_sub_le hx)).2
    have hs0 : spacing 0 = 1 := by rw [spacing_eq, Nat.log2_zero, Nat.zero_sub, pow_zero]
    have hd1 : (1 : ℚ) ≤ d := by exact_mod_cast (show 1 ≤ d by omega)
    have hle : powerUnits e ≤ d * powerUnits e := le_mul_of_one_le_left (powerUnits_pos e).le hd1
    rw [hs0, Nat.cast_zero, Nat.cast_one] at hab
    linarith
  apply shortest_of_decimalAt? hn (mem_candidateExponents.2 ⟨by omega, hu⟩)
    (decimalAt?_of_rounds hn hs hlt h)
  intro e' he'
  by_contra hne
  obtain ⟨d', hf⟩ := Option.ne_none_iff_exists'.1 hne
  have hc := (contains_of_decimalAt? hf).2
  rw [contains_iff_rounds_written hs hn] at hc
  -- a decimal with a larger exponent would be a multiple of ten
  obtain ⟨m, hm⟩ := Int.eq_ofNat_of_zero_le (Int.le_of_lt (Int.sub_pos_of_lt he'))
  obtain rfl : e' = e + m := by omega
  rw [powerUnits_add, ← mul_assoc] at hc
  have hc' : Rounds ((d'.digits * 10 ^ m : ℕ) * powerUnits e) n := by
    push_cast
    exact hc
  have he := digits_eq_of_rounds hlt h hc'
  obtain ⟨i, rfl⟩ : ∃ i, m = i + 1 := ⟨m - 1, by omega⟩
  apply hd
  rw [he, pow_succ, ← mul_assoc]
  exact Nat.mul_mod_left _ _

end FewDigits

/-- A decimal of few digits, the last of them not a zero, that is neither huge nor tiny. -/
def Scaled.IsPlain (d : Scaled) : Prop :=
  (d.digits % 10 ≠ 0 ∧ d.digits < 2 ^ 52) ∧ -200 ≤ d.exponent ∧ d.exponent ≤ 200

instance (d : Scaled) : Decidable d.IsPlain :=
  inferInstanceAs (Decidable ((d.digits % 10 ≠ 0 ∧ d.digits < 2 ^ 52) ∧
    -200 ≤ d.exponent ∧ d.exponent ≤ 200))

theorem Scaled.IsPlain.ne_infinite {d : Scaled} (h : d.IsPlain) :
    ofDecimal d.digitsWritten d.places ≠ .infinite := by
  intro hi
  have hw : d.digitsWritten ≤ 2 ^ 52 * 10 ^ 200 :=
    Nat.mul_le_mul h.1.2.le (Nat.pow_le_pow_right (by norm_num) (by have := h.2.2; omega))
  have hv : value d.digitsWritten d.places ≤ value (2 ^ 52 * 10 ^ 200) 0 := by
    rw [value, value, pow_zero, div_one]
    calc (d.digitsWritten : ℚ) / 10 ^ d.places ≤ d.digitsWritten :=
          div_le_self (Nat.cast_nonneg _) (one_le_pow₀ (by norm_num))
      _ ≤ (2 ^ 52 * 10 ^ 200 : ℕ) := Nat.cast_le.2 hw
  have hf : ¬ (.infinite : Magnitude) ≤ ofDecimal (2 ^ 52 * 10 ^ 200) 0 := by decide +kernel
  apply hf
  rw [← hi]
  exact ofDecimal_le_ofDecimal hv

theorem Scaled.IsPlain.exists_shortest {d : Scaled} (h : d.IsPlain) :
    ∃ n, spacing n ∣ n ∧ ofDecimal d.digitsWritten d.places = .finite n ∧ shortest n = d := by
  obtain ⟨n, hr, he⟩ := exists_rounds d.digitsWritten d.places
  have hf := h.ne_infinite
  obtain ⟨⟨hd, hd'⟩, hl, hu⟩ := h
  rw [he] at hf ⊢
  have hn : n < limit := by
    by_contra hn
    rw [if_neg hn] at hf
    exact hf rfl
  refine ⟨n, hr.spaced (units_nonneg _ _), if_pos hn, ?_⟩
  rw [units_written] at hr
  exact shortest_of_rounds hd hd' hl (by omega) hr

end ScriptFeatures.Decimal

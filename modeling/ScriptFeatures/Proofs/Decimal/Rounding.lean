import Mathlib.Algebra.Order.Floor.Semifield
import Mathlib.Data.Rat.Floor
import Mathlib.Tactic.FieldSimp
import Mathlib.Tactic.Linarith
import Mathlib.Tactic.Ring
import ScriptFeatures.Proofs.Decimal.Order

namespace ScriptFeatures.Decimal

/-- A whole number nearest to `x`, and the even one if two are equally near. -/
structure Nearest (x : ℚ) (r : ℕ) : Prop where
  below : (r : ℚ) - 1 / 2 ≤ x
  above : x ≤ r + 1 / 2
  even : x = r - 1 / 2 ∨ x = r + 1 / 2 → r % 2 = 0

theorem div_eq_div_add_mod (num : ℕ) {den : ℕ} (hd : 0 < den) :
    (num : ℚ) / den = (num / den : ℕ) + ((num % den : ℕ) : ℚ) / den := by
  have hd' : (den : ℚ) ≠ 0 := by exact_mod_cast hd.ne'
  have hn : (num : ℚ) = den * (num / den : ℕ) + (num % den : ℕ) := by
    exact_mod_cast (Nat.div_add_mod num den).symm
  rw [div_eq_iff hd', add_mul, div_mul_cancel₀ _ hd', mul_comm]
  exact hn

theorem nearest_roundQuotient (num : ℕ) {den : ℕ} (hd : 0 < den) :
    Nearest (num / den) (roundQuotient num den) := by
  have hd' : (0 : ℚ) < den := by exact_mod_cast hd
  have hlt (r : ℕ) : (r : ℚ) / den < 1 / 2 ↔ 2 * r < den := by
    rw [div_lt_div_iff₀ hd' two_pos, one_mul, mul_comm]
    norm_cast
  have hgt (r : ℕ) : 1 / 2 < (r : ℚ) / den ↔ den < 2 * r := by
    rw [div_lt_div_iff₀ two_pos hd', one_mul, mul_comm]
    norm_cast
  have h₀ : (0 : ℚ) ≤ ((num % den : ℕ) : ℚ) / den := by positivity
  have h₁ : ((num % den : ℕ) : ℚ) / den < 1 := by
    rw [div_lt_one hd']
    exact_mod_cast Nat.mod_lt num hd
  rw [div_eq_div_add_mod num hd, roundQuotient]
  generalize num / den = q
  generalize num % den = r at h₀ h₁ ⊢
  split_ifs with hl hg he
  case pos =>
    have hx := (hlt r).2 hl
    refine ⟨by linarith, by linarith, ?_⟩
    rintro (h | h) <;> linarith
  case pos =>
    have hx := (hgt r).2 hg
    have hc : ((q + 1 : ℕ) : ℚ) = q + 1 := Nat.cast_succ q
    refine ⟨by linarith, by linarith, ?_⟩
    rintro (h | h) <;> linarith
  case pos =>
    have hx : (r : ℚ) / den = 1 / 2 :=
      le_antisymm (not_lt.1 (mt (hgt r).1 hg)) (not_lt.1 (mt (hlt r).1 hl))
    exact ⟨by linarith, by linarith, fun _ => he⟩
  case neg =>
    have hx : (r : ℚ) / den = 1 / 2 :=
      le_antisymm (not_lt.1 (mt (hgt r).1 hg)) (not_lt.1 (mt (hlt r).1 hl))
    have hc : ((q + 1 : ℕ) : ℚ) = q + 1 := Nat.cast_succ q
    exact ⟨by linarith, by linarith, fun _ => by omega⟩

theorem nearest_natCast (n : ℕ) : Nearest n n where
  below := by linarith
  above := by linarith
  even := by rintro (h | h) <;> linarith

theorem Nearest.le_of_le {x y : ℚ} {m n : ℕ} (hm : Nearest x m) (hn : Nearest y n) (h : x ≤ y) :
    m ≤ n := by
  by_contra hlt
  have hs : (n : ℚ) + 1 ≤ m := by exact_mod_cast Nat.lt_of_not_le hlt
  -- both numbers lie half-way between `n` and `m`, which cannot both be even
  have hx : x = m - 1 / 2 := by linarith [hm.below, hn.above]
  have hy : y = n + 1 / 2 := by linarith [hm.below, hn.above]
  have he : (m : ℚ) = n + 1 := by linarith [hm.below, hn.above]
  have he' : m = n + 1 := by exact_mod_cast he
  have hme := hm.even (.inl hx)
  have hne := hn.even (.inr hy)
  omega

theorem Nearest.unique {x : ℚ} {m n : ℕ} (hm : Nearest x m) (hn : Nearest x n) : m = n :=
  Nat.le_antisymm (hm.le_of_le hn le_rfl) (hn.le_of_le hm le_rfl)

namespace Magnitude

theorem spacing_eq (n : ℕ) : spacing n = 2 ^ (n.log2 - 52) := by
  rw [spacing]
  by_cases h : n < Nat.pow 2 53
  · have hl : n.log2 ≤ 52 := by
      by_cases hn : n = 0
      · simp [hn]
      · exact Nat.le_of_lt_succ ((Nat.log2_lt hn).2 h)
    rw [if_pos h, Nat.sub_eq_zero_of_le hl, pow_zero]
  · rw [if_neg h]
    rfl

theorem spacing_pos (n : ℕ) : 0 < spacing n := by
  rw [spacing_eq]
  positivity

theorem spacing_bounds (n : ℕ) :
    (spacing n = 1 ∨ 2 ^ 52 * spacing n ≤ n) ∧ n < 2 ^ 53 * spacing n := by
  rw [spacing_eq, ← pow_add, ← pow_add]
  have hlt : n < 2 ^ (n.log2 + 1) := Nat.lt_log2_self
  by_cases h : n.log2 ≤ 52
  · rw [Nat.sub_eq_zero_of_le h]
    exact ⟨.inl rfl, hlt.trans_le (Nat.pow_le_pow_right two_pos (by omega))⟩
  · have hn : n ≠ 0 := by
      rintro rfl
      exact h (by simp)
    have h₁ : 52 + (n.log2 - 52) = n.log2 := by omega
    have h₂ : 53 + (n.log2 - 52) = n.log2 + 1 := by omega
    rw [h₁, h₂]
    exact ⟨.inr (Nat.log2_self_le hn), hlt⟩

theorem spacing_eq_of_bounds {n j : ℕ} (hl : j = 0 ∨ 2 ^ 52 * 2 ^ j ≤ n)
    (hu : n < 2 ^ 53 * 2 ^ j) : spacing n = 2 ^ j := by
  rw [← pow_add] at hl hu
  rw [spacing_eq]
  congr 1
  by_cases hn : n = 0
  · subst hn
    rcases hl with rfl | hl
    · simp
    · exact absurd hl (Nat.not_le.2 (by positivity))
  · have hlog : n.log2 < 53 + j := (Nat.log2_lt hn).2 hu
    rcases hl with rfl | hl
    · omega
    · have hle : 52 + j ≤ n.log2 := (Nat.le_log2 hn).2 hl
      omega

theorem spacing_eq_or_le {m n : ℕ} (h : m ≤ n) :
    spacing m = spacing n ∨ spacing n ≠ 1 ∧ 2 * spacing m ≤ spacing n := by
  have hl : m.log2 ≤ n.log2 := by
    by_cases hm : m = 0
    · simp [hm]
    · exact (Nat.le_log2 (by omega)).2 ((Nat.log2_self_le hm).trans h)
  rw [spacing_eq, spacing_eq]
  rcases Nat.lt_or_eq_of_le (Nat.sub_le_sub_right hl 52) with hlt | he
  · refine .inr ⟨?_, ?_⟩
    · exact (Nat.one_lt_pow (by omega) Nat.one_lt_two).ne'
    · rw [← pow_succ']
      exact Nat.pow_le_pow_right two_pos hlt
  · rw [he]
    exact .inl rfl

theorem exists_spacing_eq_pow (n : ℕ) : ∃ j, spacing n = 2 ^ j := ⟨_, spacing_eq n⟩

theorem spacing_floor_eq {x : ℚ} {j : ℕ} (hx : 0 ≤ x) (hl : j = 0 ∨ 2 ^ 52 * 2 ^ j ≤ x)
    (hu : x < 2 ^ 53 * 2 ^ j) : spacing ⌊x⌋₊ = 2 ^ j := by
  apply spacing_eq_of_bounds
  · refine hl.imp_right fun h => Nat.le_floor ?_
    exact_mod_cast h
  · rw [Nat.floor_lt hx]
    exact_mod_cast hu

end Magnitude

open Magnitude

/-- `n` units are what `x` units are rounded to: a multiple of the spacing at `x`. -/
def Rounds (x : ℚ) (n : ℕ) : Prop :=
  ∃ k, n = k * spacing ⌊x⌋₊ ∧ Nearest (x / spacing ⌊x⌋₊) k

namespace Rounds

variable {x y : ℚ} {m n : ℕ}

theorem unique (hm : Rounds x m) (hn : Rounds x n) : m = n := by
  obtain ⟨k, rfl, hk⟩ := hm
  obtain ⟨l, rfl, hl⟩ := hn
  rw [hk.unique hl]

theorem exists_significand (hx : 0 ≤ x) (h : Rounds x n) :
    ∃ k, n = k * spacing ⌊x⌋₊ ∧ Nearest (x / spacing ⌊x⌋₊) k ∧
      (spacing ⌊x⌋₊ = 1 ∨ 2 ^ 52 ≤ k) ∧ k ≤ 2 ^ 53 := by
  obtain ⟨k, hn, hk⟩ := h
  obtain ⟨hl, hu⟩ := spacing_bounds ⌊x⌋₊
  have hs : (0 : ℚ) < spacing ⌊x⌋₊ := by exact_mod_cast spacing_pos ⌊x⌋₊
  refine ⟨k, hn, hk, hl.imp_right fun hl => ?_, ?_⟩
  · apply (nearest_natCast (2 ^ 52)).le_of_le hk
    rw [le_div_iff₀ hs]
    have hf : ((2 ^ 52 * spacing ⌊x⌋₊ : ℕ) : ℚ) ≤ ⌊x⌋₊ := by exact_mod_cast hl
    push_cast at hf ⊢
    exact hf.trans (Nat.floor_le hx)
  · apply hk.le_of_le (nearest_natCast (2 ^ 53))
    rw [div_le_iff₀ hs]
    rw [Nat.floor_lt hx] at hu
    push_cast at hu ⊢
    exact hu.le

theorem le_of_le (hx : 0 ≤ x) (hm : Rounds x m) (hn : Rounds y n) (h : x ≤ y) : m ≤ n := by
  obtain ⟨k, rfl, hk, -, hku⟩ := hm.exists_significand hx
  obtain ⟨l, rfl, hl, hll, -⟩ := hn.exists_significand (hx.trans h)
  rcases spacing_eq_or_le (Nat.floor_le_floor h) with hs | ⟨h1, hs⟩
  · rw [hs] at hk ⊢
    apply Nat.mul_le_mul_right
    apply hk.le_of_le hl
    gcongr
  · have hl' : 2 ^ 52 ≤ l := hll.resolve_left h1
    calc k * spacing ⌊x⌋₊ ≤ 2 ^ 53 * spacing ⌊x⌋₊ := Nat.mul_le_mul_right _ hku
      _ = 2 ^ 52 * (2 * spacing ⌊x⌋₊) := by ring
      _ ≤ l * spacing ⌊y⌋₊ := Nat.mul_le_mul hl' hs

/-- The spacing at a rounded number is that at what was rounded, or twice as large if the number
is the next power of two. -/
theorem spacing_eq (hx : 0 ≤ x) (h : Rounds x n) :
    spacing n = spacing ⌊x⌋₊ ∨ n = 2 ^ 53 * spacing ⌊x⌋₊ ∧ spacing n = 2 * spacing ⌊x⌋₊ := by
  obtain ⟨k, rfl, -, hl, hu⟩ := h.exists_significand hx
  obtain ⟨j, hj⟩ := exists_spacing_eq_pow ⌊x⌋₊
  rw [hj] at hl ⊢
  rcases Nat.lt_or_eq_of_le hu with hlt | rfl
  · left
    apply spacing_eq_of_bounds
    · refine hl.imp (fun h1 => ?_) fun hl => Nat.mul_le_mul_right _ hl
      exact Nat.pow_right_injective le_rfl (h1.trans (pow_zero 2).symm)
    · exact Nat.mul_lt_mul_of_pos_right hlt (by positivity)
  · right
    have he : 2 ^ 53 * 2 ^ j = 2 ^ 52 * 2 ^ (j + 1) := by ring
    refine ⟨rfl, ?_⟩
    rw [he, ← pow_succ']
    exact spacing_eq_of_bounds (.inr le_rfl)
      (Nat.mul_lt_mul_of_pos_right (by norm_num) (by positivity))

theorem spaced (hx : 0 ≤ x) (h : Rounds x n) : spacing n ∣ n := by
  rcases h.spacing_eq hx with he | ⟨hn, he⟩
  · obtain ⟨k, hk, -⟩ := h
    rw [he, hk]
    exact Nat.dvd_mul_left _ _
  · rw [he, hn]
    exact ⟨2 ^ 52, by ring⟩

end Rounds

theorem Rounds.abs_sub_le {x : ℚ} {n : ℕ} (hx : 0 ≤ x) (h : Rounds x n) :
    |x - n| ≤ spacing n / 2 := by
  have hle : spacing ⌊x⌋₊ ≤ spacing n := by
    rcases h.spacing_eq hx with he | ⟨-, he⟩ <;> omega
  have hle' : (spacing ⌊x⌋₊ : ℚ) ≤ spacing n := by exact_mod_cast hle
  have hs : (0 : ℚ) < spacing ⌊x⌋₊ := by exact_mod_cast spacing_pos ⌊x⌋₊
  obtain ⟨k, hk, hn⟩ := h
  have hb := hn.below
  have ha := hn.above
  rw [le_div_iff₀ hs] at hb
  rw [div_le_iff₀ hs] at ha
  have hc : (n : ℚ) = k * spacing ⌊x⌋₊ := by exact_mod_cast hk
  rw [abs_le]
  constructor <;> linarith

theorem rounds_self {n : ℕ} (h : spacing n ∣ n) : Rounds n n := by
  obtain ⟨k, hk⟩ := h
  have hs : (spacing n : ℚ) ≠ 0 := by exact_mod_cast (spacing_pos n).ne'
  have hx : (n : ℚ) / spacing n = k := by
    rw [div_eq_iff hs, mul_comm]
    exact_mod_cast hk
  refine ⟨k, ?_, ?_⟩
  · rw [Nat.floor_natCast, mul_comm]
    exact hk
  · rw [Nat.floor_natCast, hx]
    exact nearest_natCast k

def roundUnits (num den : ℕ) : ℕ :=
  roundQuotient num (den * spacing (num / den)) * spacing (num / den)

theorem rounds_roundUnits (num : ℕ) {den : ℕ} (hd : 0 < den) :
    Rounds (num / den) (roundUnits num den) := by
  have hf : ⌊(num : ℚ) / den⌋₊ = num / den := Nat.floor_div_eq_div num den
  have hs : 0 < den * spacing (num / den) := Nat.mul_pos hd (spacing_pos _)
  have hn : Nearest (num / (den * spacing (num / den) : ℕ))
      (roundQuotient num (den * spacing (num / den))) := nearest_roundQuotient num hs
  refine ⟨_, by rw [hf, roundUnits], ?_⟩
  rw [hf, div_div, ← Nat.cast_mul]
  exact hn

/-- The number that digits spell if the last `places` of them stand behind the period. -/
def value (digits places : ℕ) : ℚ := digits / 10 ^ places

theorem value_nonneg (digits places : ℕ) : 0 ≤ value digits places := by
  rw [value]
  positivity

@[irreducible] def unitsInOne : ℕ := Nat.pow 2 1074

theorem unitsInOne_pos : 0 < unitsInOne := by decide +kernel

def units (digits places : ℕ) : ℚ := value digits places * unitsInOne

theorem units_eq (digits places : ℕ) :
    units digits places = (digits * unitsInOne : ℕ) / (10 ^ places : ℕ) := by
  rw [units, value]
  push_cast
  ring

theorem units_nonneg (digits places : ℕ) : 0 ≤ units digits places :=
  mul_nonneg (value_nonneg digits places) (Nat.cast_nonneg _)

namespace Magnitude

theorem ofDecimal_eq (digits places : ℕ) :
    ofDecimal digits places =
      if roundUnits (digits * unitsInOne) (10 ^ places) < limit then
        .finite (roundUnits (digits * unitsInOne) (10 ^ places))
      else .infinite := by
  delta unitsInOne
  rfl

/-- Reading a decimal rounds it, to infinity if nothing finite is left. -/
theorem exists_rounds (digits places : ℕ) :
    ∃ n, Rounds (units digits places) n ∧
      ofDecimal digits places = if n < limit then .finite n else .infinite := by
  refine ⟨_, ?_, ofDecimal_eq digits places⟩
  rw [units_eq]
  exact rounds_roundUnits _ (by positivity)

theorem ofDecimal_of_rounds {digits places n : ℕ} (h : Rounds (units digits places) n) :
    ofDecimal digits places = if n < limit then .finite n else .infinite := by
  obtain ⟨m, hm, he⟩ := exists_rounds digits places
  rw [he, hm.unique h]

theorem ofDecimal_le_ofDecimal {d p d' p' : ℕ} (h : value d p ≤ value d' p') :
    ofDecimal d p ≤ ofDecimal d' p' := by
  obtain ⟨m, hm, hem⟩ := exists_rounds d p
  obtain ⟨n, hn, hen⟩ := exists_rounds d' p'
  have hu : units d p ≤ units d' p' := mul_le_mul_of_nonneg_right h (Nat.cast_nonneg _)
  have hmn : m ≤ n := hm.le_of_le (units_nonneg d p) hn hu
  rw [hem, hen]
  split_ifs with hl hl' hl'
  · exact finite_le_finite.2 hmn
  · exact le_infinite _
  · exact absurd (hmn.trans_lt hl') hl
  · exact le_infinite _

/-- The numbers of the format: the finite ones are multiples of their spacing, up to the limit. -/
def Representable (a : Magnitude) : Prop := ∀ n, a = finite n → spacing n ∣ n ∧ n < limit

theorem representable_ofDecimal (digits places : ℕ) : (ofDecimal digits places).Representable := by
  intro m h
  obtain ⟨n, hn, he⟩ := exists_rounds digits places
  rw [he] at h
  split_ifs at h with hl
  cases h
  exact ⟨hn.spaced (units_nonneg digits places), hl⟩

end Magnitude
end ScriptFeatures.Decimal

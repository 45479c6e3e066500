import Mathlib.Order.Defs.LinearOrder
import ScriptFeatures.Decimal.Magnitude

namespace ScriptFeatures.Decimal.Magnitude

theorem finite_le_finite {m n : Nat} : finite m ≤ finite n ↔ m ≤ n := decide_eq_true_iff

theorem le_infinite (a : Magnitude) : a ≤ infinite := by
  cases a <;> rfl

theorem not_infinite_le_finite (n : Nat) : ¬ infinite ≤ finite n := Bool.false_ne_true

protected theorem le_trans {a b c : Magnitude} (hab : a ≤ b) (hbc : b ≤ c) : a ≤ c := by
  cases c with
  | infinite => exact le_infinite a
  | finite n =>
    cases b with
    | infinite => exact (not_infinite_le_finite n hbc).elim
    | finite m =>
      cases a with
      | infinite => exact (not_infinite_le_finite m hab).elim
      | finite l =>
        rw [finite_le_finite] at *
        exact Nat.le_trans hab hbc

protected theorem le_antisymm {a b : Magnitude} (hab : a ≤ b) (hba : b ≤ a) : a = b := by
  cases a with
  | infinite =>
    cases b with
    | infinite => rfl
    | finite n => exact (not_infinite_le_finite n hab).elim
  | finite m =>
    cases b with
    | infinite => exact (not_infinite_le_finite m hba).elim
    | finite n =>
      rw [finite_le_finite] at *
      rw [Nat.le_antisymm hab hba]

protected theorem le_total (a b : Magnitude) : a ≤ b ∨ b ≤ a := by
  cases a with
  | infinite => exact .inr (le_infinite b)
  | finite m =>
    cases b with
    | infinite => exact .inl (le_infinite _)
    | finite n =>
      rw [finite_le_finite, finite_le_finite]
      exact Nat.le_total m n

instance : LinearOrder Magnitude where
  le_refl a := (Magnitude.le_total a a).elim id id
  le_trans _ _ _ := Magnitude.le_trans
  le_antisymm _ _ := Magnitude.le_antisymm
  le_total := Magnitude.le_total
  toDecidableLE := inferInstance

end ScriptFeatures.Decimal.Magnitude

import Mathlib.Data.Prod.Lex
import Mathlib.Data.Set.Function
import Mathlib.Order.Bounds.Basic
import ScriptFeatures.Proofs.Text.Checked

namespace ScriptFeatures.Text

/-- The line, from one, and the column that are reached after some characters. -/
def placeAfter (before : List Char) : Nat × Nat :=
  (before.count '\n' + 1, (before.rtakeWhile (· ≠ '\n')).length)

theorem placeAfter_lt_placeAfter_iff {p q : List Char} :
    toLex (placeAfter p) < toLex (placeAfter q) ↔ comparePlaces p q = .lt := by
  rw [Prod.Lex.toLex_lt_toLex, comparePlaces, Ordering.then_eq_lt, Nat.compare_eq_lt,
    Nat.compare_eq_eq, Nat.compare_eq_lt]
  simp only [placeAfter, Nat.add_lt_add_iff_right, Nat.add_right_cancel_iff]

theorem linesBetween_succ {text line : List Char} {i : Nat}
    (h : (text.splitOn '\n')[i]? = some line) :
    linesBetween text i (i + 1) = line := by
  obtain ⟨hi, rfl⟩ := List.getElem?_eq_some_iff.1 h
  rw [linesBetween, List.drop_take, Nat.add_sub_cancel_left, List.drop_eq_getElem_cons hi,
    List.take_succ_cons, List.take_zero, List.intercalate_singleton]

namespace Source

variable {s : Source} {before after : List Char} {place : Nat × Nat}

/-- A place in a text is one of its lines, counted from one, and a column of it, which may be the
one after its last character. -/
structure IsPlace (s : Source) (place : Nat × Nat) : Prop where
  one_le_line : 1 ≤ place.1
  line_le : place.1 ≤ s.lineCount
  column_le : ∃ line, (s.chars.splitOn '\n')[place.1 - 1]? = some line ∧ place.2 ≤ line.length

theorem position_eq (h : s.chars = before ++ after) :
    s.position (byteLength before) = placeAfter before := by
  simp only [position, clamp_byteLength h, lineOf_eq h, columnIn_eq h, placeAfter]

theorem position_clamp (offset : Nat) : s.position (s.clamp offset) = s.position offset := by
  simp only [position, clamp_clamp]

theorem isGreatest_clamp (offset : Nat) :
    IsGreatest {b | s.IsBoundary b ∧ b ≤ offset} (s.clamp offset) := by
  refine ⟨⟨isBoundary_clamp offset, clamp_le offset⟩, ?_⟩
  rintro b ⟨hb, hle⟩
  rw [← clamp_of_isBoundary hb]
  exact clamp_mono hle

theorem clamp_of_size_le {offset : Nat} (h : s.size ≤ offset) : s.clamp offset = s.size := by
  have hs : s.IsBoundary s.size := ⟨s.chars, List.prefix_refl _, rfl⟩
  exact Nat.le_antisymm (clamp_le_size offset) ((isGreatest_clamp offset).2 ⟨hs, h⟩)

theorem isPlace_placeAfter (h : s.chars = before ++ after) : s.IsPlace (placeAfter before) := by
  have hn := length_splitOn '\n' s.chars
  have hc : before.count '\n' ≤ s.chars.count '\n' := by
    rw [h, List.count_append]
    exact Nat.le_add_right _ _
  have hi : before.count '\n' < (s.chars.splitOn '\n').length := by omega
  have hl := List.getElem?_eq_getElem hi
  obtain ⟨above, rest, hw, -, ha⟩ := linesBetween_eq_append
    (show s.chars = before ++ [] ++ after by rw [h, List.append_nil]) (Nat.le_refl _)
    (show (before ++ []).count '\n' < before.count '\n' + 1 by rw [List.append_nil]; omega) hi
  rw [linesBetween_succ hl] at hw
  constructor
  · exact Nat.le_add_left 1 _
  · rw [lineCount_eq]
    exact Nat.succ_le_succ hc
  · refine ⟨_, hl, ?_⟩
    rw [hw, placeAfter]
    simp only [List.length_append]
    omega

theorem exists_placeAfter_eq (h : s.IsPlace place) :
    ∃ before after, s.chars = before ++ after ∧ placeAfter before = place := by
  obtain ⟨number, column⟩ := place
  obtain ⟨hone, hle, line, hl, hc⟩ := h
  obtain ⟨i, rfl⟩ := Nat.exists_eq_add_of_le' hone
  rw [Nat.add_sub_cancel] at hl
  obtain ⟨hi, -⟩ := List.getElem?_eq_some_iff.1 hl
  have hn : '\n' ∉ line := not_mem_of_mem_splitOn (List.mem_of_getElem? hl)
  obtain ⟨above, below, ht, ha, -, hz, -⟩ :=
    exists_around_linesBetween s.chars (Nat.lt_succ_self i) hi
  rw [linesBetween_succ hl] at ht
  have hm : '\n' ∉ line.take column := fun hm => hn (List.mem_of_mem_take hm)
  have hr : (above ++ line.take column).rtakeWhile (· ≠ '\n') = line.take column := by
    rw [rtakeWhile_lines_append ha, List.rtakeWhile_eq_self_iff]
    intro c hc
    rw [decide_eq_true_iff]
    rintro rfl
    exact hm hc
  refine ⟨above ++ line.take column, line.drop column ++ below, ?_, ?_⟩
  · rw [ht, List.append_assoc, List.append_assoc, ← List.append_assoc (line.take column),
      List.take_append_drop]
  · rw [placeAfter, hr, List.count_append, hz, List.count_eq_zero.2 hm, List.length_take,
      Nat.min_eq_left hc, Nat.add_zero]

theorem isPlace_position (offset : Nat) : s.IsPlace (s.position offset) := by
  obtain ⟨before, ⟨after, h⟩, hb⟩ := s.isBoundary_clamp offset
  rw [← position_clamp, ← hb, position_eq h.symm]
  exact isPlace_placeAfter h.symm

theorem position_strictMonoOn (s : Source) :
    StrictMonoOn (fun n => toLex (s.position n)) {n | s.IsBoundary n} := by
  rintro m ⟨p, hp, rfl⟩ n ⟨q, hq, rfl⟩ hlt
  obtain ⟨after, hpa⟩ := hp
  obtain ⟨after', hqa⟩ := hq
  change toLex (s.position _) < toLex (s.position _)
  rw [position_eq hpa.symm, position_eq hqa.symm, placeAfter_lt_placeAfter_iff,
    comparePlaces_eq ⟨after, hpa⟩ ⟨after', hqa⟩, Nat.compare_eq_lt]
  exact hlt

theorem position_bijOn (s : Source) :
    Set.BijOn s.position {n | s.IsBoundary n} {place | s.IsPlace place} := by
  refine ⟨fun n _ => isPlace_position n, fun m hm n hn he => ?_, fun place hp => ?_⟩
  · exact s.position_strictMonoOn.injOn hm hn (congrArg toLex he)
  · obtain ⟨before, after, h, rfl⟩ := exists_placeAfter_eq hp
    exact ⟨byteLength before, ⟨before, ⟨after, h.symm⟩, rfl⟩, position_eq h⟩

theorem place_snippet (start stop context : Nat) :
    ((s.snippet start stop context).matchLine, (s.snippet start stop context).matchColumn) =
      s.position start :=
  rfl

end Source
end ScriptFeatures.Text

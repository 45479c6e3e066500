import Mathlib.Data.List.DropRight
import ScriptFeatures.Proofs.Text.Offset

namespace ScriptFeatures.Text

section Lines

variable {α : Type*} {x : α} {ls : List (List α)}

theorem intercalate_cons (x : α) (l : List α) (ls : List (List α)) :
    [x].intercalate (l :: ls) = l ++ ls.flatMap (x :: ·) := by
  induction ls generalizing l with
  | nil => rw [List.intercalate_singleton, List.flatMap_nil, List.append_nil]
  | cons m ms ih => rw [List.intercalate_cons_cons, ih, List.flatMap_cons, List.append_assoc]; rfl

theorem intercalate_append_append (x : α) (ls ns : List (List α)) {ms : List (List α)}
    (h : ms ≠ []) :
    [x].intercalate (ls ++ ms ++ ns) =
      ls.flatMap (· ++ [x]) ++ [x].intercalate ms ++ ns.flatMap (x :: ·) := by
  induction ls with
  | nil =>
    obtain ⟨m, ms, rfl⟩ := List.exists_cons_of_ne_nil h
    rw [List.nil_append, List.cons_append, intercalate_cons, intercalate_cons,
      List.flatMap_append, List.flatMap_nil, List.nil_append, List.append_assoc]
  | cons l ls ih =>
    rw [List.cons_append, List.cons_append, List.intercalate_cons_of_ne_nil (by simp [h]), ih,
      List.flatMap_cons]
    simp only [List.append_assoc]

/-- Lines joined are the first ones with their ends, the middle ones joined, and the last ones
with the ends before them, wherever they are parted. -/
theorem intercalate_eq_append (x : α) {i j : Nat} (hij : i < j) (hj : j ≤ ls.length) :
    [x].intercalate ls =
      (ls.take i).flatMap (· ++ [x]) ++ [x].intercalate ((ls.take j).drop i) ++
        (ls.drop j).flatMap (x :: ·) := by
  have hs : ls.take i ++ (ls.take j).drop i ++ ls.drop j = ls := by
    have hi : ls.take i = (ls.take j).take i := by
      rw [List.take_take, Nat.min_eq_left (Nat.le_of_lt hij)]
    rw [hi, List.take_append_drop, List.take_append_drop]
  have hm : (ls.take j).drop i ≠ [] := by
    apply List.ne_nil_of_length_pos
    rw [List.length_drop, List.length_take]
    omega
  rw [← intercalate_append_append x (ls.take i) (ls.drop j) hm, hs]

variable [BEq α]

theorem length_splitOn (x : α) (xs : List α) : (xs.splitOn x).length = xs.count x + 1 := by
  induction xs with
  | nil => rw [List.splitOn_nil, List.length_singleton, List.count_nil]
  | cons y ys ih =>
    rw [List.splitOn_cons_eq_if_modifyHead, List.count_cons]
    split
    · rw [List.length_cons, ih]
    · rw [List.length_modifyHead, ih, Nat.add_zero]

variable [LawfulBEq α]

theorem not_mem_of_mem_splitOn {xs l : List α} (h : l ∈ xs.splitOn x) : x ∉ l := by
  induction xs generalizing l with
  | nil =>
    rw [List.splitOn_nil, List.mem_singleton] at h
    rw [h]
    exact List.not_mem_nil
  | cons y ys ih =>
    rw [List.splitOn_cons_eq_if_modifyHead] at h
    split at h
    · rcases List.mem_cons.1 h with rfl | h
      · exact List.not_mem_nil
      · exact ih h
    · rename_i hy
      obtain ⟨m, ms, hs⟩ := List.exists_cons_of_ne_nil (List.splitOn_ne_nil x ys)
      rw [hs] at h ih
      rcases List.mem_cons.1 h with rfl | h
      · rw [List.mem_cons, not_or]
        exact ⟨fun he => hy (by rw [he, beq_self_eq_true]), ih List.mem_cons_self⟩
      · exact ih (List.mem_cons_of_mem m h)

theorem count_intercalate (hl : ls ≠ []) (h : ∀ l ∈ ls, x ∉ l) :
    ([x].intercalate ls).count x + 1 = ls.length := by
  rw [← length_splitOn, List.splitOn_intercalate x h hl]

theorem count_flatMap_append (h : ∀ l ∈ ls, x ∉ l) :
    (ls.flatMap (· ++ [x])).count x = ls.length := by
  induction ls with
  | nil => rfl
  | cons l ls ih =>
    rw [List.forall_mem_cons] at h
    rw [List.flatMap_cons, List.count_append, List.count_append, List.count_eq_zero.2 h.1,
      List.count_singleton_self, ih h.2, List.length_cons]
    omega

end Lines

theorem eq_lineFeed_of_mem_getLast? {ls : List (List Char)} {c : Char}
    (h : c ∈ (ls.flatMap (· ++ ['\n'])).getLast?) : c = '\n' := by
  rcases List.eq_nil_or_concat ls with rfl | ⟨ls, l, rfl⟩
  · cases h
  · simpa using h.symm

theorem eq_lineFeed_of_mem_head? {ls : List (List Char)} {c : Char}
    (h : c ∈ (ls.flatMap ('\n' :: ·)).head?) : c = '\n' := by
  cases ls with
  | nil => cases h
  | cons l ls => simpa using h.symm

/-- A text is whole lines and, after its last line feed, the start of one more. -/
theorem exists_lines_append (cs : List Char) :
    ∃ lines, lines ++ cs.rtakeWhile (· ≠ '\n') = cs ∧ (∀ c ∈ lines.getLast?, c = '\n') ∧
      (cs.rtakeWhile (· ≠ '\n')).count '\n' = 0 := by
  refine ⟨cs.rdropWhile (· ≠ '\n'), List.rdropWhile_append_rtakeWhile, ?_, ?_⟩
  · intro c hc
    obtain ⟨hn, rfl⟩ := List.mem_getLast?_eq_getLast hc
    simpa using List.rdropWhile_last_not _ cs hn
  · rw [List.count_eq_zero]
    intro hm
    simpa using List.mem_rtakeWhile_imp hm

theorem rtakeWhile_lines {lines : List Char} (h : ∀ c ∈ lines.getLast?, c = '\n') :
    lines.rtakeWhile (· ≠ '\n') = [] := by
  rw [List.rtakeWhile_eq_nil_iff]
  intro hne
  simpa using h _ (List.getLast?_eq_some_getLast hne)

theorem rtakeWhile_lines_append {lines : List Char} (h : ∀ c ∈ lines.getLast?, c = '\n')
    (cs : List Char) :
    (lines ++ cs).rtakeWhile (· ≠ '\n') = cs.rtakeWhile (· ≠ '\n') := by
  induction cs using List.reverseRecOn with
  | nil => rw [List.append_nil, rtakeWhile_lines h, List.rtakeWhile_nil]
  | append_singleton cs c ih =>
    rw [← List.append_assoc]
    by_cases hc : c = '\n'
    · rw [List.rtakeWhile_concat_neg _ _ _ (by simpa using hc),
        List.rtakeWhile_concat_neg _ _ _ (by simpa using hc)]
    · rw [List.rtakeWhile_concat_pos _ _ _ (by simpa using hc),
        List.rtakeWhile_concat_pos _ _ _ (by simpa using hc), ih]

/-- The lines of a text from the `i`-th one to the one before the `j`-th, with the line feeds
between them. -/
def linesBetween (text : List Char) (i j : Nat) : List Char :=
  ['\n'].intercalate (((text.splitOn '\n').take j).drop i)

/-- Around some lines of a text stand whole lines above, and below a line feed with the rest. -/
theorem exists_around_linesBetween (text : List Char) {i j : Nat} (hij : i < j)
    (hj : j ≤ (text.splitOn '\n').length) :
    ∃ above below, text = above ++ linesBetween text i j ++ below ∧
      (∀ c ∈ above.getLast?, c = '\n') ∧ (∀ c ∈ below.head?, c = '\n') ∧
      above.count '\n' = i ∧ (above ++ linesBetween text i j).count '\n' + 1 = j := by
  have hd : ∀ l ∈ text.splitOn '\n', '\n' ∉ l := fun l => not_mem_of_mem_splitOn
  have ht := intercalate_eq_append '\n' hij hj
  rw [List.intercalate_splitOn] at ht
  have ha : (((text.splitOn '\n').take i).flatMap (· ++ ['\n'])).count '\n' = i := by
    rw [count_flatMap_append fun l hl => hd l (List.mem_of_mem_take hl), List.length_take]
    omega
  have hl : (((text.splitOn '\n').take j).drop i).length = j - i := by
    rw [List.length_drop, List.length_take]
    omega
  have hw : (linesBetween text i j).count '\n' + 1 = j - i := by
    rw [linesBetween, count_intercalate (List.ne_nil_of_length_pos (by omega))
      fun l hl => hd l (List.mem_of_mem_take (List.mem_of_mem_drop hl)), hl]
  refine ⟨_, _, ht, fun _ => eq_lineFeed_of_mem_getLast?, fun _ => eq_lineFeed_of_mem_head?, ha, ?_⟩
  rw [List.count_append, ha]
  omega

theorem laterLineStarts_append (offset : Nat) (a b : List Char) :
    laterLineStarts offset (a ++ b) =
      laterLineStarts offset a ++ laterLineStarts (offset + byteLength a) b := by
  induction a generalizing offset with
  | nil => rfl
  | cons c cs ih =>
    rw [List.cons_append, laterLineStarts, laterLineStarts, ih, byteLength, Nat.add_assoc]
    split <;> rfl

theorem length_laterLineStarts (offset : Nat) (cs : List Char) :
    (laterLineStarts offset cs).length = cs.count '\n' := by
  induction cs generalizing offset with
  | nil => rfl
  | cons c cs ih =>
    rw [laterLineStarts, List.count_cons]
    by_cases h : c = '\n' <;> simp [h, ih]

theorem bounds_of_mem_laterLineStarts {offset n : Nat} {cs : List Char}
    (h : n ∈ laterLineStarts offset cs) : offset < n ∧ n ≤ offset + byteLength cs := by
  induction cs generalizing offset with
  | nil => contradiction
  | cons c cs ih =>
    have hc := c.utf8Size_pos
    have hi (h : n ∈ laterLineStarts (offset + c.utf8Size) cs) :
        offset < n ∧ n ≤ offset + byteLength (c :: cs) := by
      obtain ⟨hl, hr⟩ := ih h
      exact ⟨by omega, by rw [byteLength]; omega⟩
    rw [laterLineStarts] at h
    split at h
    · rcases List.mem_cons.1 h with rfl | h
      · exact ⟨by omega, by rw [byteLength]; omega⟩
      · exact hi h
    · exact hi h

namespace Source

variable {s : Source} {before after : List Char}

theorem lineStarts_eq_append (h : s.chars = before ++ after) :
    s.lineStarts =
      0 :: laterLineStarts 0 before ++ laterLineStarts (byteLength before) after := by
  rw [s.lineStarts_eq, h, laterLineStarts_append, Nat.zero_add, List.cons_append]

theorem lineCount_eq : s.lineCount = s.chars.count '\n' + 1 := by
  rw [lineCount, s.lineStarts_eq, List.length_cons, length_laterLineStarts]

theorem lineOf_eq (h : s.chars = before ++ after) :
    s.lineOf (byteLength before) = before.count '\n' := by
  have hb : ∀ n ∈ 0 :: laterLineStarts 0 before, decide (n ≤ byteLength before) = true := by
    intro n hn
    rcases List.mem_cons.1 hn with rfl | hn
    · exact decide_eq_true (Nat.zero_le _)
    · have hr := (bounds_of_mem_laterLineStarts hn).2
      exact decide_eq_true (by omega)
  have ha : (laterLineStarts (byteLength before) after).takeWhile (· ≤ byteLength before) = [] := by
    rw [List.takeWhile_eq_nil_iff]
    intro hl hd
    have hn := bounds_of_mem_laterLineStarts (List.getElem_mem hl)
    exact Nat.not_le.2 hn.1 (of_decide_eq_true hd)
  rw [lineOf, lineStarts_eq_append h, List.takeWhile_append_of_pos hb, ha, List.append_nil,
    List.length_cons, length_laterLineStarts, Nat.add_sub_cancel]

theorem lineStart_eq (h : s.chars = before ++ after) (hb : ∀ c ∈ before.getLast?, c = '\n') :
    s.lineStart (before.count '\n') = byteLength before := by
  rcases List.eq_nil_or_concat before with rfl | ⟨head, c, rfl⟩
  · rw [lineStart, s.lineStarts_eq]
    rfl
  · obtain rfl := hb c (by simp)
    rw [List.concat_eq_append, List.append_assoc] at h
    rw [lineStart, lineStarts_eq_append h, List.concat_eq_append, List.count_append,
      List.count_singleton_self, List.cons_append, List.getElem?_cons_succ,
      List.getElem?_append_right (by rw [length_laterLineStarts]), length_laterLineStarts,
      Nat.sub_self, byteLength_append]
    rfl

theorem lineEnd_eq (h : s.chars = before ++ after) (ha : ∀ c ∈ after.head?, c = '\n') :
    s.lineEnd (before.count '\n') = byteLength before := by
  rw [lineEnd, lineStarts_eq_append h, List.cons_append, List.getElem?_cons_succ,
    List.getElem?_append_right (by rw [length_laterLineStarts]), length_laterLineStarts,
    Nat.sub_self]
  cases after with
  | nil => rw [size, h, List.append_nil]; rfl
  | cons c cs =>
    obtain rfl := ha c rfl
    rfl

theorem slice?_lineStart (h : s.chars = before ++ after) :
    s.slice? (s.lineStart (before.count '\n')) (byteLength before) =
      some (before.rtakeWhile (· ≠ '\n')) := by
  obtain ⟨head, hs, hl, hz⟩ := exists_lines_append before
  generalize before.rtakeWhile (· ≠ '\n') = tail at hs hz ⊢
  subst hs
  rw [List.count_append, hz, Nat.add_zero,
    lineStart_eq (by rw [h, List.append_assoc]) hl, slice?_eq h]

theorem columnIn_eq (h : s.chars = before ++ after) :
    s.columnIn (before.count '\n') (byteLength before) =
      (before.rtakeWhile (· ≠ '\n')).length := by
  rw [columnIn, slice?_lineStart h, Option.getD_some]

theorem slice?_lines {i j : Nat} (hij : i ≤ j) (hj : j < s.lineCount) :
    s.slice? (s.lineStart i) (s.lineEnd j) = some (linesBetween s.chars i (j + 1)) := by
  have hn : j + 1 ≤ (s.chars.splitOn '\n').length := by
    rw [length_splitOn, ← lineCount_eq]
    exact hj
  obtain ⟨above, below, h, ha, hb, hi, hl⟩ :=
    exists_around_linesBetween s.chars (Nat.lt_succ_of_le hij) hn
  have hs : s.lineStart i = byteLength above := by
    rw [← hi, lineStart_eq (by rw [h, List.append_assoc]) ha]
  have he : s.lineEnd j = byteLength (above ++ linesBetween s.chars i (j + 1)) := by
    rw [← lineEnd_eq h hb, Nat.succ.inj hl]
  rw [hs, he, slice?_eq h]

end Source
end ScriptFeatures.Text

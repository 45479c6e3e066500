import ScriptFeatures.Proofs.Text.Order

namespace ScriptFeatures.Text

/-- Two snippets cite the same text at the same place. Their contexts may differ. -/
structure Snippet.SameExcerpt (a b : Snippet) : Prop where
  matchLine_eq : a.matchLine = b.matchLine
  matchColumn_eq : a.matchColumn = b.matchColumn
  matchLength_eq : a.matchLength = b.matchLength
  matchText_eq : a.matchText = b.matchText

def Snippet.lower (k : Nat) (s : Snippet) : Snippet :=
  { s with matchLine := s.matchLine + k, contextStartLine := s.contextStartLine + k }

theorem Snippet.SameExcerpt.eq {a b : Snippet} (h : a.SameExcerpt b)
    (hs : a.contextStartLine = b.contextStartLine)
    (ht : a.contextText.toList = b.contextText.toList) : a = b := by
  obtain ⟨hl, hc, hn, hm⟩ := h
  cases a
  cases b
  simp only [Snippet.mk.injEq]
  exact ⟨hl, hc, hn, hm, hs, String.toList_inj.1 ht⟩

section Lines

variable {text above middle below lines : List Char} {i j : Nat}

theorem linesBetween_eq_middle (h : text = above ++ middle ++ below)
    (ha : ∀ c ∈ above.getLast?, c = '\n') (hb : ∀ c ∈ below.head?, c = '\n') :
    linesBetween text (above.count '\n') ((above ++ middle).count '\n' + 1) = middle := by
  let s : Source := { chars := text }
  have hs : s.chars = above ++ (middle ++ below) := by rw [← List.append_assoc, ← h]
  obtain ⟨hc, hl⟩ := count_le_of_eq_append h
  have ht := Source.slice?_lines (s := s) hc (Source.lineCount_eq ▸ Nat.lt_succ_of_le hl)
  rw [Source.lineStart_eq hs ha, Source.lineEnd_eq h hb, Source.slice?_eq h] at ht
  exact (Option.some.inj ht).symm

theorem linesBetween_append_right (hij : i < j) (hj : j ≤ text.count '\n')
    (suffix : List Char) : linesBetween (text ++ suffix) i j = linesBetween text i j := by
  obtain ⟨above, below, h, ha, hb, hi, hl⟩ :=
    exists_around_linesBetween text hij (by rw [length_splitOn]; omega)
  generalize linesBetween text i j = middle at h hl ⊢
  -- The line feed that ends the last of the lines stands in the text itself.
  obtain ⟨c, cs, rfl⟩ : ∃ c cs, below = c :: cs := by
    apply List.exists_cons_of_ne_nil
    rintro rfl
    rw [h, List.append_nil] at hj
    omega
  have ht : text ++ suffix = above ++ middle ++ (c :: cs ++ suffix) := by
    rw [h, List.append_assoc _ (c :: cs)]
  rw [← hi, ← hl, linesBetween_eq_middle ht ha hb]

theorem linesBetween_append_left (hl : ∀ c ∈ lines.getLast?, c = '\n') (hij : i < j)
    (hj : j ≤ (text.splitOn '\n').length) :
    linesBetween (lines ++ text) (i + lines.count '\n') (j + lines.count '\n') =
      linesBetween text i j := by
  obtain ⟨above, below, h, ha, hb, hi, hm⟩ := exists_around_linesBetween text hij hj
  generalize linesBetween text i j = middle at h hm ⊢
  have ht : lines ++ text = lines ++ above ++ middle ++ below := by
    rw [h]
    simp only [List.append_assoc]
  have hla : ∀ c ∈ (lines ++ above).getLast?, c = '\n' := by
    intro c hc
    rw [List.getLast?_append] at hc
    rcases hal : above.getLast? with - | d
    · rw [hal, Option.none_or] at hc
      exact hl c hc
    · rw [hal, Option.some_or] at hc
      exact ha c (hal ▸ hc)
  rw [← linesBetween_eq_middle ht hla hb, ← hi, ← hm]
  simp only [List.count_append]
  congr 1 <;> omega

end Lines

section Quoted

variable {text before part after lines : List Char} {context : Nat}

theorem quotePart_sameExcerpt (text text' before part : List Char) (context context' : Nat) :
    (quotePart text before part context).SameExcerpt (quotePart text' before part context') :=
  ⟨rfl, rfl, rfl, rfl⟩

/-- A snippet does not change if the text goes on behind the line feed that ends the last line of
its context. -/
theorem quotePart_append_right (h : (before ++ part).count '\n' + context < text.count '\n')
    (suffix : List Char) :
    quotePart (text ++ suffix) before part context = quotePart text before part context := by
  apply (quotePart_sameExcerpt (text ++ suffix) text before part context context).eq rfl
  have hij : before.count '\n' - context < (before ++ part).count '\n' + context + 1 := by
    rw [List.count_append]
    omega
  rw [contextText_quotePart, contextText_quotePart, List.count_append, Nat.min_eq_right (by omega),
    Nat.min_eq_right (Nat.le_of_lt h), linesBetween_append_right hij h]

theorem quotePart_append_left_sameExcerpt (hl : ∀ c ∈ lines.getLast?, c = '\n')
    (text before part : List Char) (context : Nat) :
    (quotePart (lines ++ text) (lines ++ before) part context).SameExcerpt
      ((quotePart text before part context).lower (lines.count '\n')) := by
  constructor
  case matchLine_eq =>
    simp only [quotePart, Snippet.lower, List.count_append]
    omega
  case matchColumn_eq => simp only [quotePart, Snippet.lower, rtakeWhile_lines_append hl]
  all_goals rfl

theorem quotePart_append_left (hl : ∀ c ∈ lines.getLast?, c = '\n')
    (h : text = before ++ part ++ after) (hc : context ≤ before.count '\n') :
    quotePart (lines ++ text) (lines ++ before) part context =
      (quotePart text before part context).lower (lines.count '\n') := by
  obtain ⟨hb, ht⟩ := count_le_of_eq_append h
  have hn := length_splitOn '\n' text
  apply (quotePart_append_left_sameExcerpt hl text before part context).eq
  · change _ = (quotePart text before part context).contextStartLine + lines.count '\n'
    rw [contextStartLine_quotePart, contextStartLine_quotePart, List.count_append]
    omega
  · have hi : (lines ++ before).count '\n' - context =
        before.count '\n' - context + lines.count '\n' := by
      rw [List.count_append]
      omega
    have hj : min ((lines ++ text).count '\n') ((lines ++ before ++ part).count '\n' + context) + 1 =
        min (text.count '\n') ((before ++ part).count '\n' + context) + 1 + lines.count '\n' := by
      simp only [List.count_append]
      omega
    change _ = (quotePart text before part context).contextText.toList
    rw [contextText_quotePart, contextText_quotePart, hi, hj,
      linesBetween_append_left hl (by omega) (by omega)]

end Quoted

namespace Source

variable {s : Source} {before part after : List Char}

theorem snippet_of_parts (h : s.chars = before ++ part ++ after) (context : Nat) :
    s.snippet (byteLength before) (byteLength (before ++ part)) context =
      quotePart s.chars before part context := by
  have hb : s.clamp (byteLength before) = byteLength before :=
    clamp_byteLength (by rw [h, List.append_assoc])
  apply snippet_eq_quotePart h hb
  rw [clamp_byteLength h, hb, byteLength_append]
  omega

theorem Range.exists_parts (r : s.Range) :
    ∃ before part after, s.chars = before ++ part ++ after ∧ r.start = byteLength before ∧
      r.stop = byteLength (before ++ part) := by
  obtain ⟨before, part, after, h, hb, ht⟩ := Source.exists_parts s r.start r.stop
  rw [clamp_of_isBoundary r.isBoundary_start] at hb ht
  rw [clamp_of_isBoundary r.isBoundary_stop, Nat.max_eq_left r.start_le_stop] at ht
  exact ⟨before, part, after, h, hb, ht⟩

/-- The text has the line feed that ends the last line around a range with `context` lines shown.
Lines are ended by the line feeds in their order. -/
def EndsContext (s : Source) (r : s.Range) (context : Nat) : Prop :=
  s.lineOf r.stop + 1 + context ≤ s.chars.count '\n'

/-- A snippet is the same but for its context if the text goes on, and the same altogether if it
goes on behind the last line of the context. Whole lines put before the text move the snippet down
by their number, and leave the context as it is unless the start of the text has cut it off. -/
theorem snippet_local (s : Source) (r : s.Range) (context : Nat) :
    (∀ suffix : List Char,
      (({ chars := s.chars ++ suffix } : Source).snippet r.start r.stop context).SameExcerpt
        (s.snippet r.start r.stop context) ∧
      (s.EndsContext r context →
        ({ chars := s.chars ++ suffix } : Source).snippet r.start r.stop context =
          s.snippet r.start r.stop context)) ∧
    ∀ lines : List Char, (∀ c ∈ lines.getLast?, c = '\n') →
      (({ chars := lines ++ s.chars } : Source).snippet (byteLength lines + r.start)
          (byteLength lines + r.stop) context).SameExcerpt
        ((s.snippet r.start r.stop context).lower (lines.count '\n')) ∧
      (context ≤ s.lineOf r.start →
        ({ chars := lines ++ s.chars } : Source).snippet (byteLength lines + r.start)
            (byteLength lines + r.stop) context =
          (s.snippet r.start r.stop context).lower (lines.count '\n')) := by
  obtain ⟨before, part, after, h, hb, ht⟩ := r.exists_parts
  rw [EndsContext, hb, ht, snippet_of_parts h, lineOf_eq h,
    lineOf_eq (show s.chars = before ++ (part ++ after) by rw [h, List.append_assoc])]
  refine ⟨fun suffix => ?_, fun lines hl => ?_⟩
  · have hs : s.chars ++ suffix = before ++ part ++ (after ++ suffix) := by
      rw [h, List.append_assoc _ after]
    rw [snippet_of_parts (s := { chars := s.chars ++ suffix }) hs]
    exact ⟨quotePart_sameExcerpt _ _ before part _ _,
      fun hc => quotePart_append_right (by omega) suffix⟩
  · have hs : lines ++ s.chars = lines ++ before ++ part ++ after := by
      rw [h]
      simp only [List.append_assoc]
    rw [← byteLength_append, ← byteLength_append, ← List.append_assoc,
      snippet_of_parts (s := { chars := lines ++ s.chars }) hs]
    exact ⟨quotePart_append_left_sameExcerpt hl s.chars before part context,
      quotePart_append_left hl h⟩

theorem snippet_local_middle :
    let s := ofString "a\nb\nc\nd"
    let lines := "x\ny\n".toList
    ∃ r : s.Range, (r.start = 2 ∧ r.stop = 3) ∧ s.EndsContext r 1 ∧ 1 ≤ s.lineOf r.start ∧
      (∀ c ∈ lines.getLast?, c = '\n') ∧
      ({ chars := s.chars ++ "e\n".toList } : Source).snippet 2 3 1 = s.snippet 2 3 1 ∧
      ({ chars := lines ++ s.chars } : Source).snippet (4 + 2) (4 + 3) 1 =
        (s.snippet 2 3 1).lower 2 := by
  intro s lines
  let r : s.Range :=
    ⟨2, 3, by decide, ⟨"a\n".toList, by decide, by decide⟩, ⟨"a\nb".toList, by decide, by decide⟩⟩
  have hc : s.EndsContext r 1 := by
    rw [EndsContext]
    decide
  have he : lines.getLast? = some '\n' := by decide
  have hl : ∀ c ∈ lines.getLast?, c = '\n' := by
    intro c hc
    rw [he] at hc
    exact (Option.some.inj hc).symm
  have hs : 1 ≤ s.lineOf r.start := by decide
  obtain ⟨behind, above⟩ := snippet_local s r 1
  exact ⟨r, ⟨rfl, rfl⟩, hc, hs, hl, (behind "e\n".toList).2 hc, (above lines hl).2 hs⟩

-- The last line of the context is not ended by a line feed, and goes on.
example :
    ((Source.ofString "a\nbc").snippet 0 1 1).contextText = "a\nbc" ∧
      ((Source.ofString "a\nb").snippet 0 1 1).contextText = "a\nb" := by
  decide

end Source
end ScriptFeatures.Text

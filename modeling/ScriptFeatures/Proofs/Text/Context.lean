import ScriptFeatures.Proofs.Text.Excerpt

namespace ScriptFeatures.Text

/-- What is left of a text after its first `n` lines and their line feeds, if it has that many
line feeds. -/
def dropLines? : Nat → List Char → Option (List Char)
  | 0, cs => some cs
  | _ + 1, [] => none
  | n + 1, c :: cs => if c = '\n' then dropLines? n cs else dropLines? (n + 1) cs

/-- A snippet locates its match: below the lines of its context that stand above the match, and
after as many characters as its column says, which are all on one line, the context goes on with
the whole matched text. -/
structure Snippet.LocatesMatch (cited : Snippet) : Prop where
  contextStartLine_le : cited.contextStartLine ≤ cited.matchLine
  found : ∃ below,
    dropLines? (cited.matchLine - cited.contextStartLine) cited.contextText.toList = some below ∧
      cited.matchColumn + cited.matchLength ≤ below.length ∧
      '\n' ∉ below.take cited.matchColumn ∧
      (below.drop cited.matchColumn).take cited.matchLength = cited.matchText.toList

/-- A snippet shows the match of another one with at least as many lines: the other's context
begins as many lines below as its number says, and all of it is there. -/
structure Snippet.WidenedBy (narrow wide : Snippet) : Prop where
  matchLine_eq : narrow.matchLine = wide.matchLine
  matchColumn_eq : narrow.matchColumn = wide.matchColumn
  matchLength_eq : narrow.matchLength = wide.matchLength
  matchText_eq : narrow.matchText = wide.matchText
  contextStartLine_le : wide.contextStartLine ≤ narrow.contextStartLine
  within : ∃ below,
    dropLines? (narrow.contextStartLine - wide.contextStartLine) wide.contextText.toList =
        some below ∧
      narrow.contextText.toList <+: below

theorem dropLines?_append {a : List Char} (h : ∀ c ∈ a.getLast?, c = '\n') (b : List Char) :
    dropLines? (a.count '\n') (a ++ b) = some b := by
  induction a with
  | nil => simp [dropLines?]
  | cons c cs ih =>
    have hcs : ∀ d ∈ cs.getLast?, d = '\n' := by
      intro d hd
      apply h
      rw [List.getLast?_cons, Option.mem_def.1 hd]
      rfl
    by_cases hc : c = '\n'
    · rw [hc, List.count_cons_self, List.cons_append, dropLines?, if_pos rfl, ih hcs]
    · -- The line goes on, so that its line feed is still to come.
      have hne : cs ≠ [] := by
        rintro rfl
        exact hc (h c rfl)
      have hm : '\n' ∈ cs := by
        rw [← hcs _ (List.getLast?_eq_some_getLast hne)]
        exact List.getLast_mem hne
      obtain ⟨n, hn⟩ := Nat.exists_eq_add_one.2 (List.count_pos_iff.2 hm)
      rw [List.count_cons_of_ne hc, List.cons_append, hn, dropLines?, if_neg hc, ← hn, ih hcs]

theorem prefix_of_count_le {a b text : List Char} (ha : a <+: text) (hb : b <+: text)
    (hl : ∀ c ∈ a.getLast?, c = '\n') (hc : a.count '\n' ≤ b.count '\n') : a <+: b := by
  rcases List.prefix_or_prefix_of_prefix ha hb with hab | ⟨r, rfl⟩
  · exact hab
  · rcases List.eq_nil_or_concat r with rfl | ⟨r, c, rfl⟩
    · rw [List.append_nil]
    · obtain rfl := hl c (by simp)
      simp only [List.concat_eq_append, List.count_append, List.count_singleton_self] at hc
      omega

theorem prefix_of_count_le_of_head {a b r : List Char} (hb : b <+: a ++ r)
    (hr : ∀ c ∈ r.head?, c = '\n') (hc : b.count '\n' ≤ a.count '\n') : b <+: a := by
  rcases List.prefix_or_prefix_of_prefix hb (List.prefix_append a r) with hba | ⟨m, rfl⟩
  · exact hba
  · cases m with
    | nil => rw [List.append_nil]
    | cons c m =>
      obtain ⟨t, ht⟩ := (List.prefix_append_right_inj a).1 hb
      obtain rfl := hr c (by rw [← ht]; rfl)
      rw [List.count_append, List.count_cons_self] at hc
      omega

section Lines

variable {text before part after : List Char} {i i' j j' : Nat}

/-- Lines that hold a part of the text consist of the lines above the part, the start of the line
that it starts on, the part, and more. -/
theorem linesBetween_eq_append (h : text = before ++ part ++ after)
    (hi : i ≤ before.count '\n') (hj : (before ++ part).count '\n' < j)
    (hn : j ≤ (text.splitOn '\n').length) :
    ∃ above rest,
      linesBetween text i j = above ++ (before.rtakeWhile (· ≠ '\n') ++ part ++ rest) ∧
      (∀ c ∈ above.getLast?, c = '\n') ∧ above.count '\n' = before.count '\n' - i := by
  have hij : i < j := by
    rw [List.count_append] at hj
    omega
  obtain ⟨lead, trail, hw, hl, ht, hlc, hwc⟩ := exists_around_linesBetween text hij hn
  generalize linesBetween text i j = window at hw hwc ⊢
  obtain ⟨lines, hs, he, hz⟩ := exists_lines_append before
  have hc : lines.count '\n' = before.count '\n' := by
    rw [← hs, List.count_append, hz, Nat.add_zero]
  -- The lines above the window end before the line that the part starts on, and the part ends
  -- before what follows the window.
  obtain ⟨above, ha⟩ : lead <+: lines := by
    have hlt : lead <+: text := ⟨window ++ trail, by rw [hw, List.append_assoc]⟩
    have hst : lines <+: text := by
      rw [h, ← hs, List.append_assoc, List.append_assoc]
      exact List.prefix_append _ _
    exact prefix_of_count_le hlt hst hl (by omega)
  obtain ⟨rest, hr⟩ : before ++ part <+: lead ++ window :=
    prefix_of_count_le_of_head ⟨after, by rw [← hw, h]⟩ ht (by omega)
  refine ⟨above, rest, ?_, ?_, ?_⟩
  · rw [← hs, ← ha] at hr
    simp only [List.append_assoc, List.append_cancel_left_eq] at hr ⊢
    exact hr.symm
  · intro c hc
    apply he
    rw [← ha, List.getLast?_append, hc]
    rfl
  · rw [← ha, List.count_append] at hc
    omega

theorem linesBetween_eq_append_of_le (hi : i' ≤ i) (hij : i < j) (hj : j ≤ j')
    (hn : j' ≤ (text.splitOn '\n').length) :
    ∃ above rest, linesBetween text i' j' = above ++ (linesBetween text i j ++ rest) ∧
      (∀ c ∈ above.getLast?, c = '\n') ∧ above.count '\n' = i - i' := by
  obtain ⟨lead, trail, hw, hl, _, hlc, hwc⟩ :=
    exists_around_linesBetween text hij (Nat.le_trans hj hn)
  have hz : lead.rtakeWhile (· ≠ '\n') = [] := rtakeWhile_lines hl
  obtain ⟨above, rest, he, ha, hc⟩ := linesBetween_eq_append hw (i := i') (j := j') (by omega)
    (by omega) hn
  rw [hz, List.nil_append] at he
  exact ⟨above, rest, he, ha, by rw [hc, hlc]⟩

theorem contextStartLine_quotePart (context : Nat) :
    (quotePart text before part context).contextStartLine = before.count '\n' - context + 1 := by
  simp only [quotePart]
  omega

theorem contextText_quotePart (context : Nat) :
    (quotePart text before part context).contextText.toList =
      linesBetween text (before.count '\n' - context)
        (min (text.count '\n') ((before ++ part).count '\n' + context) + 1) := by
  rw [quotePart, String.toList_ofList, length_splitOn, linesBetween]
  congr 2
  · omega
  · congr 1
    omega

theorem count_le_of_eq_append (h : text = before ++ part ++ after) :
    before.count '\n' ≤ (before ++ part).count '\n' ∧
      (before ++ part).count '\n' ≤ text.count '\n' := by
  rw [h]
  simp only [List.count_append]
  omega

theorem quotePart_locatesMatch (h : text = before ++ part ++ after) (context : Nat) :
    (quotePart text before part context).LocatesMatch := by
  have hn := length_splitOn '\n' text
  have hc := (count_le_of_eq_append h).2
  obtain ⟨above, rest, he, hl, ha⟩ := linesBetween_eq_append h
    (i := before.count '\n' - context)
    (j := min (text.count '\n') ((before ++ part).count '\n' + context) + 1)
    (Nat.sub_le _ _) (by omega) (by omega)
  obtain ⟨_, _, _, hz⟩ := exists_lines_append before
  have hm : (quotePart text before part context).matchLine -
      (quotePart text before part context).contextStartLine = above.count '\n' := by
    rw [ha, contextStartLine_quotePart]
    simp only [quotePart]
    omega
  constructor
  · rw [contextStartLine_quotePart]
    simp only [quotePart]
    omega
  · refine ⟨before.rtakeWhile (· ≠ '\n') ++ part ++ rest, ?_, ?_, ?_, ?_⟩
    · rw [hm, contextText_quotePart, he, dropLines?_append hl]
    · simp only [quotePart, List.length_append]
      omega
    · rw [quotePart, List.append_assoc, List.take_left]
      exact List.count_eq_zero.1 hz
    · rw [quotePart, List.append_assoc, List.drop_left, List.take_left, String.toList_ofList]

theorem quotePart_widenedBy (h : text = before ++ part ++ after) {context context' : Nat}
    (hc : context ≤ context') :
    (quotePart text before part context).WidenedBy (quotePart text before part context') := by
  have hn := length_splitOn '\n' text
  obtain ⟨hb, hp⟩ := count_le_of_eq_append h
  constructor
  case contextStartLine_le =>
    rw [contextStartLine_quotePart, contextStartLine_quotePart]
    omega
  case within =>
    have hi : before.count '\n' - context' ≤ before.count '\n' - context := by omega
    have hij : before.count '\n' - context <
        min (text.count '\n') ((before ++ part).count '\n' + context) + 1 := by omega
    have hj : min (text.count '\n') ((before ++ part).count '\n' + context) + 1 ≤
        min (text.count '\n') ((before ++ part).count '\n' + context') + 1 := by omega
    have hj' : min (text.count '\n') ((before ++ part).count '\n' + context') + 1 ≤
        (text.splitOn '\n').length := by omega
    obtain ⟨above, rest, he, hl, ha⟩ := linesBetween_eq_append_of_le hi hij hj hj'
    refine ⟨_, ?_, List.prefix_append _ rest⟩
    rw [contextStartLine_quotePart, contextStartLine_quotePart, contextText_quotePart,
      contextText_quotePart, he, Nat.add_sub_add_right, ← ha, dropLines?_append hl]
  all_goals rfl

end Lines

namespace Source

theorem exists_parts (s : Source) (start stop : Nat) :
    ∃ before part after, s.chars = before ++ part ++ after ∧
      s.clamp start = byteLength before ∧
      max (s.clamp stop) (s.clamp start) = byteLength (before ++ part) := by
  obtain ⟨through, hp, ht⟩ :
      ∃ p, p <+: s.chars ∧ byteLength p = max (s.clamp stop) (s.clamp start) := by
    rcases Nat.le_total (s.clamp stop) (s.clamp start) with h | h
    · exact ⟨_, upTo_isPrefix s.chars start, by rw [Nat.max_eq_right h, clamp_eq]⟩
    · exact ⟨_, upTo_isPrefix s.chars stop, by rw [Nat.max_eq_left h, clamp_eq]⟩
  have hl : byteLength (upTo s.chars start) ≤ byteLength through := by
    rw [ht, ← clamp_eq]
    exact Nat.le_max_right _ _
  obtain ⟨part, rfl⟩ := prefix_of_byteLength_le (upTo_isPrefix s.chars start) hp hl
  obtain ⟨after, ha⟩ := hp
  exact ⟨_, part, after, ha.symm, clamp_eq start, ht.symm⟩

/-- A snippet locates its match in its own context, whatever the offsets and the radius. -/
theorem snippet_locatesMatch (s : Source) (start stop context : Nat) :
    (s.snippet start stop context).LocatesMatch := by
  obtain ⟨before, part, after, h, hb, ht⟩ := s.exists_parts start stop
  rw [snippet_eq_quotePart h hb ht]
  exact quotePart_locatesMatch h context

theorem snippet_widenedBy (s : Source) (start stop : Nat) {context context' : Nat}
    (h : context ≤ context') :
    (s.snippet start stop context).WidenedBy (s.snippet start stop context') := by
  obtain ⟨before, part, after, hs, hb, ht⟩ := s.exists_parts start stop
  rw [snippet_eq_quotePart hs hb ht, snippet_eq_quotePart hs hb ht]
  exact quotePart_widenedBy hs h

end Source
end ScriptFeatures.Text

import ScriptFeatures.Proofs.Text.Position
import ScriptFeatures.Proofs.Text.Trimming

namespace ScriptFeatures.Text

theorem trimBlankEnd_trimBlankEnd (cs : List Char) :
    trimBlankEnd (trimBlankEnd cs) = trimBlankEnd cs :=
  List.rdropWhile_idempotent isBlank cs

theorem trimBlankEnd_prefix {cs ds : List Char} (h : cs <+: ds) :
    trimBlankEnd cs <+: trimBlankEnd ds := by
  have hc := isTrimmed_trimBlankEnd cs
  exact (isTrimmed_trimBlankEnd ds).longest _ (hc.isPrefix.trans h) hc.not_blank

theorem byteLength_le_of_prefix {cs ds : List Char} (h : cs <+: ds) :
    byteLength cs ≤ byteLength ds := by
  obtain ⟨rest, rfl⟩ := h
  rw [byteLength_append]
  exact Nat.le_add_right _ _

namespace Source

variable {s : Source} {start stop : Nat}

/-- Where a range ends without the blanks at its end: from there on it holds blanks only, and
before it stands no blank, unless nothing of the range is left. -/
structure IsTrimmedEnd (s : Source) (start stop offset : Nat) : Prop where
  isBoundary : s.IsBoundary offset
  start_le : start ≤ offset
  le_stop : offset ≤ stop
  blank : ∃ blanks, s.slice? offset stop = some blanks ∧ ∀ c ∈ blanks, isBlank c = true
  not_blank : offset = start ∨
    ∃ cs c, s.slice? start offset = some (cs ++ [c]) ∧ isBlank c = false

theorem trimEnd_clamp (start stop : Nat) :
    s.trimEnd (s.clamp start) (s.clamp stop) = s.trimEnd start stop := by
  simp only [trimEnd, clamp_clamp]

theorem trimEnd_of_lt (h : s.clamp stop < s.clamp start) : s.trimEnd start stop = s.clamp stop := by
  rw [trimEnd, slice?, if_neg (Nat.not_le.2 h)]

theorem exists_parts_of_le (h : s.clamp start ≤ s.clamp stop) :
    ∃ before part after, s.chars = before ++ part ++ after ∧
      s.clamp start = byteLength before ∧ s.clamp stop = byteLength (before ++ part) ∧
      s.trimEnd start stop = byteLength (before ++ trimBlankEnd part) := by
  obtain ⟨before, part, after, hs, hb, hp⟩ := s.exists_parts start stop
  rw [Nat.max_eq_left h] at hp
  refine ⟨before, part, after, hs, hb, hp, ?_⟩
  rw [← trimEnd_clamp, hb, hp, trimEnd_of_parts hs]

theorem isTrimmedEnd_of_parts {before part after : List Char}
    (h : s.chars = before ++ part ++ after) :
    s.IsTrimmedEnd (byteLength before) (byteLength (before ++ part))
      (byteLength (before ++ trimBlankEnd part)) := by
  have hs := eq_append_trimBlankEnd h
  have ht : before ++ part = before ++ trimBlankEnd part ++ part.rtakeWhile isBlank := by
    rw [List.append_assoc, trimBlankEnd_append]
  constructor
  case isBoundary => exact ⟨_, ⟨_, hs.symm⟩, rfl⟩
  case start_le => exact byteLength_le_of_prefix (List.prefix_append _ _)
  case le_stop =>
    rw [ht]
    exact byteLength_le_of_prefix (List.prefix_append _ _)
  case blank =>
    refine ⟨part.rtakeWhile isBlank, ?_, fun c => List.mem_rtakeWhile_imp⟩
    rw [ht]
    exact slice?_eq (by rw [hs, List.append_assoc _ _ after])
  case not_blank =>
    have hn := (isTrimmed_trimBlankEnd part).not_blank
    have hc := slice?_eq hs
    rcases List.eq_nil_or_concat (trimBlankEnd part) with he | ⟨cs, c, he⟩
    · exact .inl (by rw [he, List.append_nil])
    · rw [he, List.concat_eq_append] at hn hc ⊢
      exact .inr ⟨cs, c, hc, hn c (by simp)⟩

theorem isTrimmedEnd_trimEnd (h : s.clamp start ≤ s.clamp stop) :
    s.IsTrimmedEnd (s.clamp start) (s.clamp stop) (s.trimEnd start stop) := by
  obtain ⟨before, part, after, hs, hb, hp, ht⟩ := exists_parts_of_le h
  rw [hb, hp, ht]
  exact isTrimmedEnd_of_parts hs

theorem trimEnd_trimEnd (start stop : Nat) :
    s.trimEnd start (s.trimEnd start stop) = s.trimEnd start stop := by
  rcases Nat.lt_or_ge (s.clamp stop) (s.clamp start) with h | h
  · rw [trimEnd_of_lt h, trimEnd_of_lt (by rw [clamp_clamp]; exact h), clamp_clamp]
  · obtain ⟨before, part, after, hs, hb, -, ht⟩ := exists_parts_of_le h
    have hs' := eq_append_trimBlankEnd hs
    rw [ht, ← trimEnd_clamp, hb, clamp_byteLength hs', trimEnd_of_parts hs',
      trimBlankEnd_trimBlankEnd]

theorem trimEnd_le_trimEnd {stop' : Nat} (h : s.clamp start ≤ s.clamp stop)
    (h' : s.clamp stop ≤ s.clamp stop') : s.trimEnd start stop ≤ s.trimEnd start stop' := by
  obtain ⟨before, part, after, hs, hb, hp, ht⟩ := exists_parts_of_le h
  obtain ⟨before', part', after', hs', hb', hp', ht'⟩ := exists_parts_of_le (h.trans h')
  have hl : before <+: s.chars := ⟨part ++ after, by rw [hs, List.append_assoc]⟩
  have hl' : before' <+: s.chars := ⟨part' ++ after', by rw [hs', List.append_assoc]⟩
  obtain rfl : before = before' := eq_of_byteLength_eq hl hl' (hb.symm.trans hb')
  rw [hp, hp'] at h'
  have hpp : before ++ part <+: before ++ part' :=
    prefix_of_byteLength_le ⟨after, hs.symm⟩ ⟨after', hs'.symm⟩ h'
  rw [ht, ht']
  apply byteLength_le_of_prefix
  rw [List.prefix_append_right_inj] at hpp ⊢
  exact trimBlankEnd_prefix hpp

theorem trimEnd_monotone (start : Nat) : Monotone (s.trimEnd start) := by
  intro m n hmn
  have hc : s.clamp m ≤ s.clamp n := clamp_mono hmn
  -- An end before the start is kept as it is, and so it stays below all trimmed ends.
  rcases Nat.lt_or_ge (s.clamp m) (s.clamp start) with hm | hm
  · rw [trimEnd_of_lt hm]
    rcases Nat.lt_or_ge (s.clamp n) (s.clamp start) with hn | hn
    · rw [trimEnd_of_lt hn]
      exact hc
    · exact (Nat.le_of_lt hm).trans (isTrimmedEnd_trimEnd hn).start_le
  · exact trimEnd_le_trimEnd hm hc

/-- Offsets stand for the nearest boundaries of the text below them. Where these are in order, a
range gets its trimmed end, and where they are not, it keeps its end. To trim is idempotent and,
for a fixed start, monotone in the end. -/
theorem trimEnd_drops_blanks (s : Source) (start : Nat) :
    (∀ offset, IsGreatest {b | s.IsBoundary b ∧ b ≤ offset} (s.clamp offset)) ∧
    (∀ stop,
      (s.clamp start ≤ s.clamp stop →
        s.IsTrimmedEnd (s.clamp start) (s.clamp stop) (s.trimEnd start stop)) ∧
      (s.clamp stop < s.clamp start → s.trimEnd start stop = s.clamp stop)) ∧
    (∀ stop, s.trimEnd start (s.trimEnd start stop) = s.trimEnd start stop) ∧
    Monotone (s.trimEnd start) := by
  refine ⟨isGreatest_clamp, ?_, trimEnd_trimEnd start, trimEnd_monotone start⟩
  intro stop
  exact ⟨isTrimmedEnd_trimEnd, trimEnd_of_lt⟩

theorem trimEnd_drops_blanks_em_space :
    let s := ofString "é \u2003x"
    s.clamp 0 ≤ s.clamp 5 ∧ s.IsTrimmedEnd 0 3 (s.trimEnd 0 5) ∧
      s.clamp 5 < s.clamp 6 ∧ s.trimEnd 6 5 = 3 ∧ s.trimEnd 0 5 ≤ s.trimEnd 0 7 := by
  intro s
  have hle : s.clamp 0 ≤ s.clamp 5 := by decide
  have hlt : s.clamp 5 < s.clamp 6 := by decide
  obtain ⟨-, trimmed, -, mono⟩ := trimEnd_drops_blanks s 0
  obtain ⟨-, inverted, -, -⟩ := trimEnd_drops_blanks s 6
  exact ⟨hle, (trimmed 5).1 hle, hlt, (inverted 5).2 hlt, mono (by decide)⟩

end Source
end ScriptFeatures.Text

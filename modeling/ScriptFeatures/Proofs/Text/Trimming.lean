import ScriptFeatures.Proofs.Text.Locality

namespace ScriptFeatures.Text

variable {cs : List Char}

/-- The longest prefix of some characters that does not end in a blank. -/
structure IsTrimmed (cs trimmed : List Char) : Prop where
  isPrefix : trimmed <+: cs
  not_blank : ∀ c ∈ trimmed.getLast?, isBlank c = false
  longest : ∀ p, p <+: cs → (∀ c ∈ p.getLast?, isBlank c = false) → p <+: trimmed

theorem trimBlankEnd_append (cs : List Char) :
    trimBlankEnd cs ++ cs.rtakeWhile isBlank = cs :=
  List.rdropWhile_append_rtakeWhile

theorem trimBlankEnd_eq_nil (h : ∀ c ∈ cs, isBlank c = true) : trimBlankEnd cs = [] :=
  List.rdropWhile_eq_nil_iff.2 h

theorem isTrimmed_trimBlankEnd (cs : List Char) : IsTrimmed cs (trimBlankEnd cs) := by
  have ht := trimBlankEnd_append cs
  constructor
  case isPrefix => exact ⟨_, ht⟩
  case not_blank =>
    intro c hc
    obtain ⟨hn, rfl⟩ := List.mem_getLast?_eq_getLast hc
    exact Bool.eq_false_iff.2 (List.rdropWhile_last_not isBlank cs hn)
  case longest =>
    intro p hp hb
    rcases List.prefix_or_prefix_of_prefix hp ⟨_, ht⟩ with h | ⟨r, rfl⟩
    · exact h
    · -- A longer prefix ends in one of the characters that are cut off, which are blank.
      have hr : r <+: cs.rtakeWhile isBlank := by
        rw [← List.prefix_append_right_inj (trimBlankEnd cs), ht]
        exact hp
      rcases List.eq_nil_or_concat r with rfl | ⟨r, c, rfl⟩
      · rw [List.append_nil]
      · have hc : isBlank c = true := List.mem_rtakeWhile_imp (hr.subset (by simp))
        exact absurd hc (Bool.eq_false_iff.1 (hb c (by simp)))

namespace Source

variable {s : Source} {before part after : List Char}

theorem trimEnd_of_parts (h : s.chars = before ++ part ++ after) :
    s.trimEnd (byteLength before) (byteLength (before ++ part)) =
      byteLength (before ++ trimBlankEnd part) := by
  have hb : s.clamp (byteLength before) = byteLength before :=
    clamp_byteLength (by rw [h, List.append_assoc])
  rw [trimEnd, hb, clamp_byteLength h, slice?_eq h, byteLength_append before (trimBlankEnd part)]

theorem eq_append_trimBlankEnd (h : s.chars = before ++ part ++ after) :
    s.chars = before ++ trimBlankEnd part ++ (part.rtakeWhile isBlank ++ after) := by
  rw [h, List.append_assoc, List.append_assoc, ← List.append_assoc (trimBlankEnd part),
    trimBlankEnd_append]

/-- A trimmed range cites what is left of its characters. -/
theorem snippet_trimEnd (h : s.chars = before ++ part ++ after) (context : Nat) :
    s.snippet (byteLength before)
        (s.trimEnd (byteLength before) (byteLength (before ++ part))) context =
      quotePart s.chars before (trimBlankEnd part) context := by
  rw [trimEnd_of_parts h]
  exact snippet_of_parts (eq_append_trimBlankEnd h) context

end Source
end ScriptFeatures.Text

import ScriptFeatures.Proofs.Text.Context

namespace ScriptFeatures.Text

theorem floorBoundary_append (p cs : List Char) (offset : Nat) :
    floorBoundary (p ++ cs) (byteLength p + offset) = byteLength p + floorBoundary cs offset := by
  induction p with
  | nil => simp [byteLength]
  | cons c p ih =>
    rw [List.cons_append, floorBoundary, byteLength, if_pos (by omega), Nat.add_assoc,
      Nat.add_sub_cancel_left, ih, Nat.add_assoc]

theorem dropBytes?_add (p cs : List Char) (n : Nat) :
    dropBytes? (byteLength p + n) (p ++ cs) = dropBytes? n cs := by
  induction p with
  | nil => simp [byteLength]
  | cons c p ih =>
    obtain ⟨k, hk⟩ := Nat.exists_eq_add_one.2 c.utf8Size_pos
    have he : byteLength (c :: p) + n = k + (byteLength p + n) + 1 := by
      rw [byteLength]
      omega
    have hs : k + (byteLength p + n) + 1 - c.utf8Size = byteLength p + n := by omega
    rw [he, List.cons_append, dropBytes?, if_pos (by omega), hs, ih]

namespace Source

variable {s s' : Source} {p : List Char}

theorem clamp_behind (h : s'.chars = p ++ s.chars) (offset : Nat) :
    s'.clamp (byteLength p + offset) = byteLength p + s.clamp offset := by
  rw [clamp, clamp, h, floorBoundary_append]

theorem slice?_behind (h : s'.chars = p ++ s.chars) (start stop : Nat) :
    s'.slice? (byteLength p + start) (byteLength p + stop) = s.slice? start stop := by
  rw [slice?, slice?, h, dropBytes?_add, Nat.add_sub_add_left]
  simp only [Nat.add_le_add_iff_left]

theorem trimEnd_behind (h : s'.chars = p ++ s.chars) (start stop : Nat) :
    s'.trimEnd (byteLength p + start) (byteLength p + stop) =
      byteLength p + s.trimEnd start stop := by
  simp only [trimEnd, clamp_behind h, slice?_behind h]
  cases s.slice? (s.clamp start) (s.clamp stop) with
  | none => rfl
  | some cs => exact Nat.add_assoc _ _ _

/-- What is cited of a text does not change if another text is put before it; only its line does,
and what stands around it. -/
theorem snippet_behind (h : s'.chars = p ++ s.chars) (start stop context : Nat) :
    let cited := s.snippet start stop context
    let moved := s'.snippet (byteLength p + start) (byteLength p + stop) context
    moved.matchText = cited.matchText ∧ moved.matchLength = cited.matchLength ∧
      moved.matchLine = cited.matchLine + p.count '\n' := by
  intro cited moved
  obtain ⟨before, part, after, hs, hb, ht⟩ := s.exists_parts start stop
  have hs' : s'.chars = p ++ before ++ part ++ after := by
    rw [h, hs, List.append_assoc, List.append_assoc, List.append_assoc]
  have hb' : s'.clamp (byteLength p + start) = byteLength (p ++ before) := by
    rw [clamp_behind h, hb, byteLength_append]
  have ht' : max (s'.clamp (byteLength p + stop)) (s'.clamp (byteLength p + start)) =
      byteLength (p ++ before ++ part) := by
    rw [clamp_behind h, clamp_behind h, Nat.add_max_add_left, ht, List.append_assoc,
      byteLength_append p]
  have hc : cited = quotePart s.chars before part context := snippet_eq_quotePart hs hb ht context
  have hm : moved = quotePart s'.chars (p ++ before) part context :=
    snippet_eq_quotePart hs' hb' ht' context
  rw [hc, hm]
  refine ⟨rfl, rfl, ?_⟩
  simp only [quotePart, List.count_append]
  omega

end Source
end ScriptFeatures.Text

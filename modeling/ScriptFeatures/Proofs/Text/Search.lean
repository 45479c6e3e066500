import Mathlib.Data.List.Infix
import ScriptFeatures.Text.Search
import ScriptFeatures.Text.Source

namespace ScriptFeatures.Text

variable {a c d : Char} {as cs pattern before rest : List Char} {p q : Option Char → Prop}
  {offset skip k : Nat}

theorem occursIn_iff : occursIn pattern cs = true ↔ pattern <:+: cs := by
  induction cs with
  | nil => simp [occursIn]
  | cons c cs ih =>
    rw [occursIn, Bool.or_eq_true, List.isPrefixOf_iff_prefix, ih, List.infix_cons_iff]

/-- Somewhere the pattern stands before a character, or the end, that `p` allows. -/
def StandsBefore (pattern : List Char) (p : Option Char → Prop) (cs : List Char) : Prop :=
  ∃ before rest, cs = before ++ pattern ++ rest ∧ p rest.head?

theorem standsBefore_or :
    StandsBefore pattern (fun next => p next ∨ q next) cs ↔
      StandsBefore pattern p cs ∨ StandsBefore pattern q cs := by
  simp only [StandsBefore, and_or_left, exists_or]

theorem infix_iff_standsBefore :
    pattern <:+: cs ↔ StandsBefore pattern p cs ∨ StandsBefore pattern (¬ p ·) cs := by
  rw [← standsBefore_or]
  constructor
  · rintro ⟨before, rest, rfl⟩
    exact ⟨before, rest, rfl, em _⟩
  · rintro ⟨before, rest, rfl, -⟩
    exact ⟨before, rest, rfl⟩

theorem occursIn_append_singleton_iff :
    occursIn (pattern ++ [d]) cs = true ↔ StandsBefore pattern (· = some d) cs := by
  rw [occursIn_iff]
  constructor
  · rintro ⟨before, rest, rfl⟩
    exact ⟨before, d :: rest, by simp, rfl⟩
  · rintro ⟨before, rest, rfl, h⟩
    obtain ⟨rest, rfl⟩ := List.head?_eq_some_iff.1 h
    exact ⟨before, rest, by simp⟩

section Matches

theorem exists_append_of_not_mem {rest' : List Char} (ha : a ∉ as)
    (h : as ++ rest = before ++ a :: rest') :
    ∃ between, before = as ++ between ∧ rest = between ++ a :: rest' := by
  rcases List.append_eq_append_iff.1 h with h | ⟨between, rfl, hr⟩
  · exact h
  · cases between with
    | nil => exact ⟨[], by simp, hr.symm⟩
    | cons x between =>
      obtain ⟨rfl, -⟩ := List.cons.inj hr
      exact absurd (List.mem_append_right _ (.head _)) ha

/-- The pattern stands behind at least `skip` characters, `k` being where it starts if the first of
them is at `offset`. -/
def MatchesAt (pattern : List Char) (offset skip k : Nat) (cs : List Char) : Prop :=
  ∃ before rest, cs = before ++ pattern ++ rest ∧ skip ≤ before.length ∧
    offset + byteLength before = k

theorem matchesAt_succ :
    MatchesAt pattern offset (skip + 1) k (c :: cs) ↔
      MatchesAt pattern (offset + c.utf8Size) skip k cs := by
  constructor
  · rintro ⟨before, rest, h, hs, rfl⟩
    cases before with
    | nil => cases hs
    | cons d before =>
      obtain ⟨rfl, rfl⟩ := List.cons.inj h
      exact ⟨before, rest, rfl, Nat.le_of_succ_le_succ hs, Nat.add_assoc _ _ _⟩
  · rintro ⟨before, rest, rfl, hs, rfl⟩
    exact ⟨c :: before, rest, rfl, Nat.succ_le_succ hs, (Nat.add_assoc _ _ _).symm⟩

theorem matchesAt_zero :
    MatchesAt pattern offset 0 k (c :: cs) ↔
      pattern <+: c :: cs ∧ offset = k ∨ MatchesAt pattern (offset + c.utf8Size) 0 k cs := by
  rw [← matchesAt_succ]
  constructor
  · rintro ⟨before, rest, h, -, rfl⟩
    cases before with
    | nil => exact .inl ⟨⟨rest, h.symm⟩, rfl⟩
    | cons d before => exact .inr ⟨d :: before, rest, h, Nat.succ_pos _, rfl⟩
  · rintro (⟨⟨rest, h⟩, rfl⟩ | ⟨before, rest, h, -, hk⟩)
    · exact ⟨[], rest, h.symm, Nat.zero_le _, rfl⟩
    · exact ⟨before, rest, h, Nat.zero_le _, hk⟩

/-- Behind the start of a match, the next one starts at its end or later. -/
theorem matchesAt_skip (ha : a ∉ as) (h : as <+: cs) :
    MatchesAt (a :: as) offset as.length k cs ↔ MatchesAt (a :: as) offset 0 k cs := by
  constructor
  · rintro ⟨before, rest, hc, -, hk⟩
    exact ⟨before, rest, hc, Nat.zero_le _, hk⟩
  · rintro ⟨before, rest, rfl, -, hk⟩
    obtain ⟨behind, hb⟩ := h
    rw [List.append_assoc, List.cons_append] at hb
    obtain ⟨between, rfl, -⟩ := exists_append_of_not_mem ha hb
    exact ⟨as ++ between, rest, rfl, by simp, hk⟩

/-- A step of the search keeps what is left to find: by induction on the text, whatever the search
skips holds no start of an occurrence. -/
theorem mem_matchOffsets (ha : a ∉ as) :
    k ∈ matchOffsets (a :: as) offset skip cs ↔ MatchesAt (a :: as) offset skip k cs := by
  fun_induction matchOffsets (a :: as) offset skip cs with
  | case1 => contradiction
  | case2 offset skip =>
    refine iff_of_false List.not_mem_nil ?_
    rintro ⟨before, rest, h, -⟩
    simp at h
  | case3 offset skip c cs ih => rw [ih, matchesAt_succ]
  | case4 offset c cs h ih =>
    have hp : a :: as <+: c :: cs := List.isPrefixOf_iff_prefix.1 h
    rw [List.mem_cons, ih, matchesAt_zero, and_iff_right hp, eq_comm, List.length_cons,
      Nat.add_sub_cancel, matchesAt_skip ha (List.cons_prefix_cons.1 hp).2]
  | case5 offset c cs h ih =>
    have hp : ¬ a :: as <+: c :: cs := fun hp => h (List.isPrefixOf_iff_prefix.2 hp)
    rw [ih, matchesAt_zero, or_iff_right fun hm => hp hm.1]

/-- The search finds all occurrences, although it looks for matches that do not overlap. -/
theorem mem_matchOffsets_iff (ha : a ∉ as) :
    k ∈ matchOffsets (a :: as) 0 0 cs ↔
      ∃ before rest, cs = before ++ a :: as ++ rest ∧ byteLength before = k := by
  rw [mem_matchOffsets ha, MatchesAt]
  simp only [Nat.zero_le, true_and, Nat.zero_add]

theorem append_cons_cases {before' rest' : List Char}
    (h : before ++ a :: rest = before' ++ a :: rest') :
    (before = before' ∧ rest = rest') ∨
      (∃ between, before' = before ++ a :: between ∧ rest = between ++ a :: rest') ∨
      ∃ between, before = before' ++ a :: between ∧ rest' = between ++ a :: rest := by
  induction before generalizing before' with
  | nil =>
    cases before' with
    | nil => exact .inl ⟨rfl, (List.cons.inj h).2⟩
    | cons c before' =>
      obtain ⟨rfl, hr⟩ := List.cons.inj h
      exact .inr (.inl ⟨before', rfl, hr⟩)
  | cons c before ih =>
    cases before' with
    | nil =>
      obtain ⟨rfl, hr⟩ := List.cons.inj h
      exact .inr (.inr ⟨before, rfl, hr.symm⟩)
    | cons d before' =>
      obtain ⟨rfl, ht⟩ := List.cons.inj h
      rcases ih ht with ⟨rfl, hr⟩ | ⟨between, rfl, hr⟩ | ⟨between, rfl, hr⟩
      · exact .inl ⟨rfl, hr⟩
      · exact .inr (.inl ⟨between, rfl, hr⟩)
      · exact .inr (.inr ⟨between, rfl, hr⟩)

/-- Each occurrence counts for itself: one more of them changes nothing for those around it, if
`p` takes the start of an occurrence for the end of the text. -/
theorem standsBefore_append (ha : a ∉ as) (hp : p none ↔ p (some a)) :
    StandsBefore (a :: as) p (before ++ a :: as ++ rest) ↔
      StandsBefore (a :: as) p before ∨ p rest.head? ∨ StandsBefore (a :: as) p rest := by
  have hh (cs cs' : List Char) : p (cs ++ a :: cs').head? ↔ p cs.head? := by
    cases cs with
    | nil => exact hp.symm
    | cons => exact Iff.rfl
  constructor
  · rintro ⟨before', rest', h, hn⟩
    simp only [List.append_assoc, List.cons_append] at h
    rcases append_cons_cases h with ⟨rfl, hr⟩ | ⟨middle, rfl, hr⟩ | ⟨middle, rfl, hr⟩
    · obtain rfl := List.append_cancel_left hr
      exact .inr (.inl hn)
    · obtain ⟨between, -, rfl⟩ := exists_append_of_not_mem ha hr
      exact .inr (.inr ⟨between, rest', by simp, hn⟩)
    · obtain ⟨between, rfl, rfl⟩ := exists_append_of_not_mem ha hr
      exact .inl ⟨before', between, by simp, (hh _ _).1 hn⟩
  · rintro (⟨before', rest', rfl, hn⟩ | hn | ⟨before', rest', rfl, hn⟩)
    · exact ⟨before', rest' ++ a :: (as ++ rest), by simp, (hh _ _).2 hn⟩
    · exact ⟨before, rest, rfl, hn⟩
    · exact ⟨before ++ a :: as ++ before', rest', by simp, hn⟩

end Matches

section Bytes

theorem utf8Bytes_append (cs cs' : List Char) :
    utf8Bytes (cs ++ cs') = utf8Bytes cs ++ utf8Bytes cs' :=
  List.flatMap_append

theorem length_utf8Bytes (cs : List Char) : (utf8Bytes cs).length = byteLength cs := by
  induction cs with
  | nil => rfl
  | cons c cs ih =>
    rw [byteLength, ← ih, ← String.length_utf8EncodeChar, ← List.length_append]
    rfl

theorem getElem?_utf8Bytes (before rest : List Char) :
    (utf8Bytes (before ++ rest))[byteLength before]? = (utf8Bytes rest).head? := by
  rw [utf8Bytes_append, ← length_utf8Bytes, List.getElem?_append_right (Nat.le_refl _),
    Nat.sub_self, List.head?_eq_getElem?]

theorem head?_utf8EncodeChar_eq_some_iff (hd : d.toNat < 128) :
    (String.utf8EncodeChar c).head? = some d.toUInt8 ↔ c = d := by
  have hb : d.toUInt8.toNat = d.toNat := Nat.mod_eq_of_lt (hd.trans (by decide))
  have hc : c.val.toNat = c.toNat := rfl
  unfold String.utf8EncodeChar
  simp only [hc]
  split_ifs
  all_goals
    rw [List.head?_cons, Option.some_inj, ← UInt8.toNat_inj, hb, UInt8.toNat_ofNat',
      ← Char.toNat_inj]
    omega

theorem head?_utf8Bytes_eq_some_iff (hd : d.toNat < 128) :
    (utf8Bytes cs).head? = some d.toUInt8 ↔ cs.head? = some d := by
  cases cs with
  | nil => simp [utf8Bytes]
  | cons c cs =>
    rw [utf8Bytes, List.flatMap_cons, List.head?_append_of_ne_nil _ (String.utf8EncodeChar_ne_nil),
      head?_utf8EncodeChar_eq_some_iff hd, List.head?_cons, Option.some_inj]

end Bytes

end ScriptFeatures.Text

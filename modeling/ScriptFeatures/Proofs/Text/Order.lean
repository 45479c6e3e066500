import ScriptFeatures.Proofs.Text.Context

namespace ScriptFeatures.Text

theorem compare_add_left (a m n : Nat) : compare (a + m) (a + n) = compare m n := by
  simp only [Nat.compare_eq_ite_lt, Nat.add_lt_add_iff_left]

theorem compare_byteLength_append (p r : List Char) :
    compare (byteLength p) (byteLength (p ++ r)) = compare 0 r.length := by
  rw [byteLength_append]
  cases r with
  | nil => simp [byteLength]
  | cons c r =>
    have hc := c.utf8Size_pos
    rw [byteLength, Nat.compare_eq_lt.2 (by omega), Nat.compare_eq_lt.2 (by simp)]

/-- A comparison that tells a prefix from what it is a prefix of is the order of the bytes. -/
theorem compare_of_compare_append {f : List Char → List Char → Ordering}
    (hs : ∀ p q, (f p q).swap = f q p) (h : ∀ p r, f p (p ++ r) = compare 0 r.length)
    {text p q : List Char} (hp : p <+: text) (hq : q <+: text) :
    f p q = compare (byteLength p) (byteLength q) := by
  rcases List.prefix_or_prefix_of_prefix hp hq with ⟨r, rfl⟩ | ⟨r, rfl⟩
  · rw [h, compare_byteLength_append]
  · rw [← hs, ← Nat.compare_swap, h, compare_byteLength_append]

theorem compare_length {text p q : List Char} (hp : p <+: text) (hq : q <+: text) :
    compare p.length q.length = compare (byteLength p) (byteLength q) := by
  apply compare_of_compare_append (fun p q => Nat.compare_swap p.length q.length) _ hp hq
  intro p r
  rw [List.length_append]
  exact compare_add_left p.length 0 r.length

theorem rtakeWhile_append {f : Char → Bool} {a b : List Char} (h : ∀ c ∈ b, f c = true) :
    (a ++ b).rtakeWhile f = a.rtakeWhile f ++ b := by
  have hb : ∀ c ∈ b.reverse, f c = true := fun c hc => h c (List.mem_reverse.1 hc)
  rw [List.rtakeWhile, List.reverse_append, List.takeWhile_append_of_pos hb, List.reverse_append,
    List.reverse_reverse]
  rfl

def comparePlaces (p q : List Char) : Ordering :=
  (compare (p.count '\n') (q.count '\n')).then
    (compare (p.rtakeWhile (· ≠ '\n')).length (q.rtakeWhile (· ≠ '\n')).length)

theorem comparePlaces_append (p r : List Char) :
    comparePlaces p (p ++ r) = compare 0 r.length := by
  rw [comparePlaces, List.count_append]
  by_cases hm : '\n' ∈ r
  · have hc := List.count_pos_iff.2 hm
    rw [Nat.compare_eq_lt.2 (by omega), Nat.compare_eq_lt.2 (List.length_pos_of_mem hm)]
    rfl
  · have hr : ∀ c ∈ r, decide (c ≠ '\n') = true := by
      intro c hc
      rw [decide_eq_true_iff]
      rintro rfl
      exact hm hc
    rw [List.count_eq_zero.2 hm, Nat.add_zero, Nat.compare_eq_eq.2 rfl, Ordering.eq_then,
      rtakeWhile_append hr, List.length_append]
    exact compare_add_left _ 0 r.length

theorem comparePlaces_eq {text p q : List Char} (hp : p <+: text) (hq : q <+: text) :
    comparePlaces p q = compare (byteLength p) (byteLength q) := by
  refine compare_of_compare_append (fun p q => ?_) comparePlaces_append hp hq
  simp only [comparePlaces, Ordering.swap_then, Nat.compare_swap]

theorem eq_of_byteLength_eq {text p q : List Char} (hp : p <+: text) (hq : q <+: text)
    (h : byteLength p = byteLength q) : p = q :=
  (prefix_of_byteLength_le hp hq (Nat.le_of_eq h)).eq_of_length <| by
    rw [← Nat.compare_eq_eq, compare_length hp hq, h, Nat.compare_eq_eq]

section Quoted

variable {text before part after before' part' after' : List Char}

/-- Snippets of one text are compared by their places and, where they start at the same one, by
their lengths. The texts and the contexts decide nothing. -/
theorem compare_quotePart (h : text = before ++ part ++ after)
    (h' : text = before' ++ part' ++ after') (context : Nat) :
    compare (quotePart text before part context) (quotePart text before' part' context) =
      (compare (byteLength before) (byteLength before')).then
        (compare (byteLength (before ++ part)) (byteLength (before' ++ part'))) := by
  have hb : before <+: text := ⟨part ++ after, by rw [h, List.append_assoc]⟩
  have hb' : before' <+: text := ⟨part' ++ after', by rw [h', List.append_assoc]⟩
  have hl : compare (before.count '\n' + 1) (before'.count '\n' + 1) =
      compare (before.count '\n') (before'.count '\n') := by
    rw [Nat.add_comm _ 1, Nat.add_comm _ 1, compare_add_left]
  change Snippet.compare _ _ = _
  rw [Snippet.compare]
  simp only [quotePart, hl, Ordering.then_assoc]
  rw [← Ordering.then_assoc, ← comparePlaces, comparePlaces_eq hb hb']
  cases hc : compare (byteLength before) (byteLength before') with
  | lt => rfl
  | gt => rfl
  | eq =>
    obtain rfl := eq_of_byteLength_eq hb hb' (Nat.compare_eq_eq.1 hc)
    rw [Ordering.eq_then, Ordering.eq_then, byteLength_append, byteLength_append,
      compare_add_left]
    have hr : part ++ after = part' ++ after' := by
      rw [h, List.append_assoc, List.append_assoc] at h'
      exact List.append_cancel_left h'
    have hp : part <+: part ++ after := List.prefix_append _ _
    have hp' : part' <+: part ++ after := hr ▸ List.prefix_append _ _
    rw [compare_length hp hp']
    cases hd : compare (byteLength part) (byteLength part') with
    | lt => rfl
    | gt => rfl
    | eq =>
      obtain rfl := eq_of_byteLength_eq hp hp' (Nat.compare_eq_eq.1 hd)
      simp

end Quoted

namespace Source

variable {s : Source}

/-- The length of a prefix of the text in bytes. -/
def IsBoundary (s : Source) (offset : Nat) : Prop :=
  ∃ before, before <+: s.chars ∧ byteLength before = offset

theorem isBoundary_clamp (offset : Nat) : s.IsBoundary (s.clamp offset) :=
  ⟨_, upTo_isPrefix s.chars offset, (clamp_eq offset).symm⟩

theorem clamp_of_isBoundary {offset : Nat} (h : s.IsBoundary offset) : s.clamp offset = offset := by
  obtain ⟨before, ⟨after, ha⟩, rfl⟩ := h
  rw [clamp, ← ha]
  clear ha
  induction before with
  | nil =>
    cases after with
    | nil => rfl
    | cons c cs =>
      have hc := c.utf8Size_pos
      rw [List.nil_append, floorBoundary, byteLength, if_neg (by omega)]
  | cons c cs ih =>
    rw [List.cons_append, floorBoundary, byteLength, if_pos (Nat.le_add_right _ _),
      Nat.add_sub_cancel_left, ih]

theorem clamp_byteLength {before after : List Char} (h : s.chars = before ++ after) :
    s.clamp (byteLength before) = byteLength before :=
  clamp_of_isBoundary ⟨before, ⟨after, h.symm⟩, rfl⟩

@[ext] structure Range (s : Source) where
  start : Nat
  stop : Nat
  start_le_stop : start ≤ stop
  isBoundary_start : s.IsBoundary start
  isBoundary_stop : s.IsBoundary stop

/-- The range that two offsets stand for. It is empty if they are in the wrong order. -/
def range (s : Source) (start stop : Nat) : s.Range where
  start := s.clamp start
  stop := max (s.clamp stop) (s.clamp start)
  start_le_stop := Nat.le_max_right _ _
  isBoundary_start := isBoundary_clamp start
  isBoundary_stop := by
    rcases Nat.le_total (s.clamp stop) (s.clamp start) with h | h
    · rw [Nat.max_eq_right h]
      exact isBoundary_clamp start
    · rw [Nat.max_eq_left h]
      exact isBoundary_clamp stop

theorem range_start_stop (r : s.Range) : s.range r.start r.stop = r := by
  have hs := clamp_of_isBoundary r.isBoundary_start
  have ht := clamp_of_isBoundary r.isBoundary_stop
  ext
  · exact hs
  · change max (s.clamp r.stop) (s.clamp r.start) = r.stop
    rw [hs, ht, Nat.max_eq_left r.start_le_stop]

namespace Range

instance : Ord s.Range := ⟨compareLex (compareOn start) (compareOn stop)⟩

instance : Std.TransOrd s.Range :=
  inferInstanceAs (Std.TransCmp (compareLex (compareOn start) (compareOn stop)))

instance : Std.LawfulEqOrd s.Range where
  eq_of_compare {r r'} h := by
    change (compare r.start r'.start).then (compare r.stop r'.stop) = .eq at h
    rw [Ordering.then_eq_eq, Nat.compare_eq_eq, Nat.compare_eq_eq] at h
    exact Range.ext h.1 h.2

end Range

def cite (s : Source) (context : Nat) (r : s.Range) : Snippet := s.snippet r.start r.stop context

theorem cite_range (start stop context : Nat) :
    s.cite context (s.range start stop) = s.snippet start stop context := by
  obtain ⟨before, part, after, h, hb, ht⟩ := s.exists_parts start stop
  have hr := range_start_stop (s.range start stop)
  rw [Range.ext_iff] at hr
  rw [cite, snippet_eq_quotePart h hb ht, snippet_eq_quotePart h (hr.1.trans hb) (hr.2.trans ht)]

theorem compare_snippet (start stop start' stop' context : Nat) :
    compare (s.snippet start stop context) (s.snippet start' stop' context) =
      compare (s.range start stop) (s.range start' stop') := by
  obtain ⟨before, part, after, h, hb, ht⟩ := s.exists_parts start stop
  obtain ⟨before', part', after', h', hb', ht'⟩ := s.exists_parts start' stop'
  rw [snippet_eq_quotePart h hb ht, snippet_eq_quotePart h' hb' ht', compare_quotePart h h', ← hb,
    ← hb', ← ht, ← ht']
  rfl

theorem compare_cite (context : Nat) (r r' : s.Range) :
    compare (s.cite context r) (s.cite context r') = compare r r' := by
  rw [cite, cite, compare_snippet, range_start_stop, range_start_stop]

end Source
end ScriptFeatures.Text

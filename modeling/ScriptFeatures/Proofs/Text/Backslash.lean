import Mathlib.Algebra.Ring.Parity
import ScriptFeatures.Proofs.Text.Search

namespace ScriptFeatures.Text

/-- Where backslashes stand right before `u{`, and how many: no backslash stands before them. -/
def RunBefore (n : ℕ) (cs : List Char) : Prop :=
  ∃ before rest, cs = before ++ (List.replicate n '\\' ++ 'u' :: '{' :: rest) ∧
    before.getLast? ≠ some '\\'

/-- Some run is odd, so that its last backslash is not escaped by the one before. -/
def OddRun (cs : List Char) : Prop := ∃ n, Odd n ∧ RunBefore n cs

/-- Whether an escape of a code point stands in a raw text. A backslash and the character after it
are taken together, so that a backslash that is escaped itself starts no escape. -/
def escapesCodePoint : List Char → Bool
  | [] => false
  | '\\' :: 'u' :: '{' :: _ => true
  | '\\' :: _ :: cs => escapesCodePoint cs
  | _ :: cs => escapesCodePoint cs

theorem exists_run (cs : List Char) :
    ∃ before n, cs = before ++ List.replicate n '\\' ∧ before.getLast? ≠ some '\\' := by
  induction cs using List.reverseRecOn with
  | nil => exact ⟨[], 0, rfl, by simp⟩
  | append_singleton cs c ih =>
    by_cases hc : c = '\\'
    · obtain ⟨before, n, rfl, hb⟩ := ih
      refine ⟨before, n + 1, ?_, hb⟩
      rw [hc, List.append_assoc, List.replicate_succ']
    · refine ⟨cs ++ [c], 0, by simp, ?_⟩
      simpa using hc

theorem occursIn_codePoint_iff {cs : List Char} :
    occursIn ['\\', 'u', '{'] cs = true ↔ ∃ n, 0 < n ∧ RunBefore n cs := by
  rw [occursIn_iff]
  constructor
  · rintro ⟨before, rest, rfl⟩
    obtain ⟨start, n, rfl, hb⟩ := exists_run before
    refine ⟨n + 1, Nat.succ_pos n, start, rest, ?_, hb⟩
    simp [List.replicate_succ']
  · rintro ⟨n, hn, before, rest, rfl, -⟩
    obtain ⟨k, rfl⟩ := Nat.exists_eq_succ_of_ne_zero hn.ne'
    refine ⟨before ++ List.replicate k '\\', rest, ?_⟩
    simp [List.replicate_succ']

def StartsWithRun (n : ℕ) (cs : List Char) : Prop :=
  ∃ rest, cs = List.replicate n '\\' ++ 'u' :: '{' :: rest

def RunInside (n : ℕ) (cs : List Char) : Prop :=
  ∃ c before rest, cs = c :: before ++ (List.replicate n '\\' ++ 'u' :: '{' :: rest) ∧
    (c :: before).getLast? ≠ some '\\'

section

variable {n : ℕ} {c d : Char} {cs : List Char}

theorem runBefore_iff : RunBefore n cs ↔ StartsWithRun n cs ∨ RunInside n cs := by
  constructor
  · rintro ⟨before, rest, h, hb⟩
    cases before with
    | nil => exact .inl ⟨rest, h⟩
    | cons c before => exact .inr ⟨c, before, rest, h, hb⟩
  · rintro (⟨rest, h⟩ | ⟨c, before, rest, h, hb⟩)
    · exact ⟨[], rest, h, by simp⟩
    · exact ⟨c :: before, rest, h, hb⟩

theorem runInside_cons : RunInside n (c :: cs) ↔ c ≠ '\\' ∧ StartsWithRun n cs ∨ RunInside n cs := by
  constructor
  · rintro ⟨_, before, rest, h, hb⟩
    obtain ⟨rfl, rfl⟩ := List.cons.inj h
    cases before with
    | nil => exact .inl ⟨by simpa using hb, rest, rfl⟩
    | cons d before => exact .inr ⟨d, before, rest, rfl, by simpa using hb⟩
  · rintro (⟨hc, rest, rfl⟩ | ⟨d, before, rest, rfl, hb⟩)
    · exact ⟨c, [], rest, rfl, by simpa using hc⟩
    · exact ⟨c, d :: before, rest, rfl, by simpa using hb⟩

theorem runInside_cons_of_inside (h : RunInside n cs) : RunInside n (c :: cs) :=
  runInside_cons.2 (.inr h)

theorem runInside_cons_of_runBefore (hc : c ≠ '\\') (h : RunBefore n cs) : RunInside n (c :: cs) :=
  runInside_cons.2 ((runBefore_iff.1 h).imp_left fun h => ⟨hc, h⟩)

theorem runBefore_of_runInside (h : RunInside n (c :: cs)) : RunBefore n cs :=
  runBefore_iff.2 ((runInside_cons.1 h).imp_left And.right)

theorem runInside_of_backslash (h : RunInside n ('\\' :: cs)) : RunInside n cs :=
  (runInside_cons.1 h).resolve_left fun h => h.1 rfl

theorem startsWithRun_cons_of_ne (hc : c ≠ '\\') (hn : Odd n) : ¬ StartsWithRun n (c :: cs) := by
  obtain ⟨k, rfl⟩ := hn
  rintro ⟨rest, h⟩
  exact hc (List.cons.inj h).1

theorem startsWithRun_backslash : StartsWithRun (n + 1) ('\\' :: cs) ↔ StartsWithRun n cs := by
  simp [StartsWithRun, List.replicate_succ]

theorem startsWithRun_zero : StartsWithRun 0 cs ↔ ∃ rest, cs = 'u' :: '{' :: rest := by
  simp [StartsWithRun]

theorem not_oddRun_of_length (h : cs.length < 2) : ¬ OddRun cs := by
  rintro ⟨n, -, before, rest, rfl, -⟩
  simp at h
  omega

theorem oddRun_escape : OddRun ('\\' :: 'u' :: '{' :: cs) :=
  ⟨1, odd_one, runBefore_iff.2 (.inl ⟨cs, rfl⟩)⟩

theorem oddRun_cons (hc : c ≠ '\\') : OddRun (c :: cs) ↔ OddRun cs := by
  constructor
  · rintro ⟨n, hn, h⟩
    rcases runBefore_iff.1 h with h | h
    · exact absurd h (startsWithRun_cons_of_ne hc hn)
    · exact ⟨n, hn, runBefore_of_runInside h⟩
  · rintro ⟨n, hn, h⟩
    exact ⟨n, hn, runBefore_iff.2 (.inr (runInside_cons_of_runBefore hc h))⟩

/-- A backslash and the character after it, when they are not the start of an escape, may be taken
off together: if the character is a backslash too, the run keeps its parity. -/
theorem oddRun_pair (hne : ∀ rest, d = 'u' → cs = '{' :: rest → False) :
    OddRun ('\\' :: d :: cs) ↔ OddRun cs := by
  constructor
  · rintro ⟨_, ⟨k, rfl⟩, h⟩
    rcases runBefore_iff.1 h with h | h
    · have hs : StartsWithRun (2 * k) (d :: cs) := startsWithRun_backslash.1 h
      cases k with
      | zero =>
        obtain ⟨rest, he⟩ := startsWithRun_zero.1 hs
        obtain ⟨hd, hr⟩ := List.cons.inj he
        exact (hne rest hd hr).elim
      | succ k =>
        obtain ⟨rest, he⟩ := hs
        obtain ⟨-, he⟩ := List.cons.inj he
        exact ⟨2 * k + 1, ⟨k, rfl⟩, runBefore_iff.2 (.inl ⟨rest, he⟩)⟩
    · have hs : RunInside (2 * k + 1) (d :: cs) := runInside_of_backslash h
      exact ⟨_, ⟨k, rfl⟩, runBefore_of_runInside hs⟩
  · rintro ⟨n, hn, h⟩
    by_cases hd : d = '\\'
    · subst hd
      rcases runBefore_iff.1 h with h | h
      · have hs := startsWithRun_backslash.2 (startsWithRun_backslash.2 h)
        exact ⟨n + 2, hn.add_even even_two, runBefore_iff.2 (.inl hs)⟩
      · exact ⟨n, hn, runBefore_iff.2 (.inr (runInside_cons_of_inside (runInside_cons_of_inside h)))⟩
    · have hs : RunInside n (d :: cs) := runInside_cons_of_runBefore hd h
      exact ⟨n, hn, runBefore_iff.2 (.inr (runInside_cons_of_inside hs))⟩

end

/-- The parity of a run decides whether its last backslash starts an escape. -/
theorem escapesCodePoint_iff {cs : List Char} : escapesCodePoint cs = true ↔ OddRun cs := by
  fun_induction escapesCodePoint cs with
  | case1 => exact iff_of_false (by simp) (not_oddRun_of_length (by simp))
  | case2 rest => exact iff_of_true rfl oddRun_escape
  | case3 d cs hne ih => rw [ih, oddRun_pair hne]
  | case4 c cs _ hne ih =>
    rw [ih]
    cases cs with
    | nil => exact iff_of_false (not_oddRun_of_length (by simp)) (not_oddRun_of_length (by simp))
    | cons d cs => exact (oddRun_cons fun hc => hne d cs hc rfl).symm

theorem occursIn_of_escapesCodePoint {cs : List Char} (h : escapesCodePoint cs = true) :
    occursIn ['\\', 'u', '{'] cs = true := by
  obtain ⟨_, ⟨k, rfl⟩, hr⟩ := escapesCodePoint_iff.1 h
  exact occursIn_codePoint_iff.2 ⟨2 * k + 1, Nat.succ_pos _, hr⟩

end ScriptFeatures.Text

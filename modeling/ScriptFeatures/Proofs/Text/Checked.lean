import Mathlib.Data.Nat.PSub
import ScriptFeatures.Proofs.Text.Order

namespace ScriptFeatures.Text

theorem exists_append_of_dropBytes?_eq_some {n : Nat} {cs rest : List Char}
    (h : dropBytes? n cs = some rest) : ∃ before, cs = before ++ rest ∧ byteLength before = n := by
  induction cs generalizing n with
  | nil =>
    cases n with
    | zero => exact ⟨[], Option.some.inj h, rfl⟩
    | succ n => cases h
  | cons c cs ih =>
    cases n with
    | zero => exact ⟨[], Option.some.inj h, rfl⟩
    | succ n =>
      rw [dropBytes?] at h
      split at h
      · obtain ⟨before, rfl, hb⟩ := ih h
        exact ⟨c :: before, rfl, by rw [byteLength, hb]; omega⟩
      · cases h

theorem floorBoundary_le (cs : List Char) (offset : Nat) : floorBoundary cs offset ≤ offset := by
  induction cs generalizing offset with
  | nil => exact Nat.zero_le offset
  | cons c cs ih =>
    have hc := ih (offset - c.utf8Size)
    rw [floorBoundary]
    split <;> omega

theorem floorBoundary_mono (cs : List Char) {m n : Nat} (h : m ≤ n) :
    floorBoundary cs m ≤ floorBoundary cs n := by
  induction cs generalizing m n with
  | nil => exact Nat.le_refl 0
  | cons c cs ih =>
    have hc : floorBoundary cs (m - c.utf8Size) ≤ floorBoundary cs (n - c.utf8Size) :=
      ih (Nat.sub_le_sub_right h _)
    rw [floorBoundary, floorBoundary]
    split
    · rw [if_pos (by omega)]
      omega
    · exact Nat.zero_le _

def word? (n : Nat) : Option Nat := if n < 2 ^ 64 then some n else none

namespace Source

variable {s : Source}

theorem isBoundary_iff {offset : Nat} :
    s.IsBoundary offset ↔ (dropBytes? offset s.chars).isSome = true := by
  constructor
  · rintro ⟨before, ⟨after, ha⟩, rfl⟩
    rw [← ha, dropBytes?_append]
    rfl
  · intro h
    obtain ⟨rest, hr⟩ := Option.isSome_iff_exists.1 h
    obtain ⟨before, hb, rfl⟩ := exists_append_of_dropBytes?_eq_some hr
    exact ⟨before, ⟨rest, hb.symm⟩, rfl⟩

theorem clamp_le (offset : Nat) : s.clamp offset ≤ offset := floorBoundary_le s.chars offset

theorem clamp_mono {m n : Nat} (h : m ≤ n) : s.clamp m ≤ s.clamp n := floorBoundary_mono s.chars h

theorem clamp_clamp (offset : Nat) : s.clamp (s.clamp offset) = s.clamp offset :=
  clamp_of_isBoundary (isBoundary_clamp offset)

theorem clamp_eq_of_le {m n : Nat} (h : m ≤ n) (hm : s.clamp n ≤ m) : s.clamp m = s.clamp n := by
  apply Nat.le_antisymm (clamp_mono h)
  rw [← clamp_clamp n]
  exact clamp_mono hm

theorem clamp_le_size (offset : Nat) : s.clamp offset ≤ s.size := by
  obtain ⟨before, ⟨after, ha⟩, hb⟩ := s.isBoundary_clamp offset
  rw [size, ← ha, byteLength_append, hb]
  exact Nat.le_add_right _ _

/-- Moves an offset down to a character boundary, byte by byte. -/
def descend? (s : Source) : Nat → Option Nat
  | 0 => if (dropBytes? 0 s.chars).isSome then some 0 else none
  | n + 1 => if (dropBytes? (n + 1) s.chars).isSome then some (n + 1) else s.descend? n

theorem descend?_eq (offset : Nat) : s.descend? offset = some (s.clamp offset) := by
  induction offset with
  | zero =>
    rw [Nat.eq_zero_of_le_zero (clamp_le 0), descend?, dropBytes?]
    rfl
  | succ n ih =>
    rw [descend?]
    split
    · rename_i h
      rw [clamp_of_isBoundary (isBoundary_iff.2 h)]
    · rename_i h
      have hne : s.clamp (n + 1) ≠ n + 1 := by
        intro he
        apply h
        rw [← isBoundary_iff, ← he]
        exact isBoundary_clamp (n + 1)
      have hle : s.clamp (n + 1) ≤ n := Nat.le_of_lt_succ (lt_of_le_of_ne (clamp_le (n + 1)) hne)
      rw [ih, clamp_eq_of_le (Nat.le_succ n) hle]

def clamp? (s : Source) (offset : Nat) : Option Nat := s.descend? (min offset s.size)

theorem clamp?_eq (offset : Nat) : s.clamp? offset = some (s.clamp offset) := by
  have hm : s.clamp offset ≤ min offset s.size := Nat.le_min.2 ⟨clamp_le offset, clamp_le_size offset⟩
  rw [clamp?, descend?_eq, clamp_eq_of_le (Nat.min_le_left _ _) hm]

def lineOf? (s : Source) (offset : Nat) : Option Nat :=
  (s.lineStarts.takeWhile (· ≤ offset)).length.ppred

theorem lineOf?_eq (offset : Nat) : s.lineOf? offset = some (s.lineOf offset) := by
  -- The first line starts at zero, which is at or before the offset.
  apply Nat.ppred_eq_pred
  rw [s.lineStarts_eq, List.takeWhile_cons_of_pos (by simp)]
  exact Nat.succ_pos _

theorem getElem?_lineStarts {line : Nat} (h : line < s.lineCount) :
    s.lineStarts[line]? = some (s.lineStart line) := by
  rw [lineStart, List.getElem?_eq_getElem h, Option.getD_some]

def lineEnd? (s : Source) (line : Nat) : Option Nat :=
  match s.lineStarts[line + 1]? with
  | some next => next.ppred
  | none => some s.size

theorem lineEnd?_eq (line : Nat) : s.lineEnd? line = some (s.lineEnd line) := by
  rw [lineEnd?, lineEnd]
  cases h : s.lineStarts[line + 1]? with
  | none => rfl
  | some next =>
    -- No line but the first one starts at zero.
    rw [s.lineStarts_eq, List.getElem?_cons_succ] at h
    exact Nat.ppred_eq_pred (bounds_of_mem_laterLineStarts (List.mem_of_getElem? h)).1

def columnIn? (s : Source) (line offset : Nat) : Option Nat := do
  let start ← s.lineStarts[line]?
  let cs ← s.slice? start offset
  some cs.length

def trimEnd? (s : Source) (start stop : Nat) : Option Nat := do
  let start ← s.clamp? start
  let stop ← s.clamp? stop
  match s.slice? start stop with
  | some cs => some (start + byteLength (trimBlankEnd cs))
  | none => some stop

theorem trimEnd?_eq (start stop : Nat) : s.trimEnd? start stop = some (s.trimEnd start stop) := by
  simp only [trimEnd?, trimEnd, clamp?_eq, Option.bind_eq_bind, Option.bind_some]
  cases s.slice? (s.clamp start) (s.clamp stop) <;> rfl

def snippet? (s : Source) (start stop context : Nat) : Option Snippet := do
  let start ← s.clamp? start
  let stop ← s.clamp? stop
  let stop := max stop start
  let first ← s.lineOf? start
  let last ← s.lineOf? stop
  let contextFirst := first - context
  let below ← word? (last + context)
  let lastLine ← s.lineStarts.length.ppred
  let contextLast := min below lastLine
  let matched ← s.slice? start stop
  let column ← s.columnIn? first start
  let contextStart ← s.lineStarts[contextFirst]?
  let contextStop ← s.lineEnd? contextLast
  let around ← s.slice? contextStart contextStop
  some
    { matchLine := first + 1
      matchColumn := column
      matchLength := matched.length
      matchText := String.ofList matched
      contextStartLine := contextFirst + 1
      contextText := String.ofList around }

theorem columnIn?_eq {before after : List Char} (h : s.chars = before ++ after) :
    s.columnIn? (before.count '\n') (byteLength before) =
      some (s.columnIn (before.count '\n') (byteLength before)) := by
  have hl : before.count '\n' < s.lineCount := by
    rw [lineCount_eq, h, List.count_append]
    omega
  simp only [columnIn?, columnIn, getElem?_lineStarts hl, slice?_lineStart h, Option.bind_eq_bind,
    Option.bind_some, Option.getD_some]

/-- No step fails, whatever the offsets, if the number of the last line and the radius add up to a
number of 64 bits. -/
theorem snippet?_eq {context : Nat} (h : s.lineCount - 1 + context < 2 ^ 64) (start stop : Nat) :
    s.snippet? start stop context = some (s.snippet start stop context) := by
  obtain ⟨before, part, after, hs, hb, ht⟩ := s.exists_parts start stop
  have hs' : s.chars = before ++ (part ++ after) := by rw [hs, List.append_assoc]
  obtain ⟨hc, hc'⟩ := count_le_of_eq_append hs
  have hn : s.lineCount - 1 = s.chars.count '\n' := by rw [lineCount_eq, Nat.add_sub_cancel]
  have hp : s.lineStarts.length.ppred = some (s.lineCount - 1) :=
    Nat.ppred_eq_pred (by rw [← lineCount, lineCount_eq]; omega)
  have hw : word? ((before ++ part).count '\n' + context) =
      some ((before ++ part).count '\n' + context) := if_pos (by omega)
  have hi : before.count '\n' - context < s.lineCount := by
    rw [lineCount_eq]
    omega
  have hj : min ((before ++ part).count '\n' + context) (s.lineCount - 1) < s.lineCount := by
    rw [lineCount_eq]
    omega
  have ha := slice?_lines (show before.count '\n' - context ≤ _ by omega) hj
  rw [hb] at ht
  simp only [snippet?, snippet, clamp?_eq, lineOf?_eq, lineEnd?_eq, Option.bind_eq_bind,
    Option.bind_some, hb, ht, lineOf_eq hs, lineOf_eq hs', hp, hw, columnIn?_eq hs', slice?_eq hs,
    getElem?_lineStarts hi, ha, Option.getD_some]

-- With a larger radius the number of the last line of the context does not fit.
example : (ofString "a").snippet? 0 1 (2 ^ 64) = none := by decide

theorem matchText_isInfix (start stop context : Nat) :
    (s.snippet start stop context).matchText.toList <:+: s.chars := by
  obtain ⟨before, part, after, hs, hb, ht⟩ := s.exists_parts start stop
  rw [snippet_eq_quotePart hs hb ht, quotePart, String.toList_ofList]
  exact ⟨before, after, hs.symm⟩

theorem matchText_eq_empty {start stop : Nat} (h : s.clamp stop ≤ s.clamp start) (context : Nat) :
    (s.snippet start stop context).matchText = "" := by
  obtain ⟨before, part, after, hs, hb, ht⟩ := s.exists_parts start stop
  rw [snippet_eq_quotePart hs hb ht]
  rw [Nat.max_eq_right h, hb, byteLength_append] at ht
  cases part with
  | nil => rfl
  | cons c cs =>
    have hc := c.utf8Size_pos
    rw [byteLength] at ht
    omega

theorem trimEnd_le {start stop : Nat} (h : stop ≤ start) : s.trimEnd start stop ≤ s.clamp start := by
  have hc : s.clamp stop ≤ s.clamp start := clamp_mono h
  rw [trimEnd]
  cases hs : s.slice? (s.clamp start) (s.clamp stop) with
  | none => exact hc
  | some cs =>
    rw [slice?, Nat.sub_eq_zero_of_le hc] at hs
    split at hs
    · obtain ⟨rest, _, ht⟩ := Option.bind_eq_some_iff.1 hs
      rw [takeBytes?] at ht
      cases ht
      exact Nat.le_refl _
    · cases hs

end Source
end ScriptFeatures.Text

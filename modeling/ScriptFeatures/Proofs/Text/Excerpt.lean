import ScriptFeatures.Proofs.Text.Line
import ScriptFeatures.Text.Snippet

namespace ScriptFeatures.Text

/-- Cites the part of the text that stands after `before`, with the lines around it. -/
def quotePart (text before part : List Char) (context : Nat) : Snippet :=
  let lines := text.splitOn '\n'
  let matchLine := before.count '\n' + 1
  let contextFirst := max 1 (matchLine - context)
  let contextLast := min lines.length ((before ++ part).count '\n' + 1 + context)
  { matchLine
    matchColumn := (before.rtakeWhile (· ≠ '\n')).length
    matchLength := part.length
    matchText := String.ofList part
    contextStartLine := contextFirst
    contextText :=
      String.ofList (['\n'].intercalate ((lines.take contextLast).drop (contextFirst - 1))) }

/-- The part of the text between two offsets, each moved down to a character boundary; a range
that ends before its start is empty. -/
def quote (text : List Char) (start stop context : Nat) : Snippet :=
  let before := upTo text start
  let through :=
    if byteLength (upTo text stop) < byteLength before then before else upTo text stop
  quotePart text before (through.drop before.length) context

namespace Source

theorem snippet_eq_quotePart {s : Source} {before part after : List Char} {start stop : Nat}
    (h : s.chars = before ++ part ++ after) (hb : s.clamp start = byteLength before)
    (ht : max (s.clamp stop) (s.clamp start) = byteLength (before ++ part)) (context : Nat) :
    s.snippet start stop context = quotePart s.chars before part context := by
  have hs : s.chars = before ++ (part ++ after) := by rw [h, List.append_assoc]
  have hfirst : max 1 (before.count '\n' + 1 - context) = before.count '\n' - context + 1 := by
    omega
  have hlast : min (s.chars.count '\n' + 1) ((before ++ part).count '\n' + 1 + context) =
      min ((before ++ part).count '\n' + context) (s.chars.count '\n') + 1 := by
    omega
  have hl : before.count '\n' - context ≤
      min ((before ++ part).count '\n' + context) (s.chars.count '\n') := by
    rw [h]
    simp only [List.count_append]
    omega
  have hc : min ((before ++ part).count '\n' + context) (s.chars.count '\n') < s.lineCount := by
    rw [lineCount_eq]
    omega
  rw [snippet, ht, hb, lineOf_eq hs, lineOf_eq h, columnIn_eq hs, slice?_eq h, lineCount_eq,
    Nat.add_sub_cancel, slice?_lines hl hc]
  simp only [quotePart, linesBetween, length_splitOn, hfirst, hlast, Option.getD_some,
    Nat.add_sub_cancel]

/-- A source cites a range as its text alone does, whatever the offsets and the context. -/
theorem snippet_eq_quote (s : Source) (start stop context : Nat) :
    s.snippet start stop context = quote s.chars start stop context := by
  obtain ⟨rest, hr⟩ := upTo_isPrefix s.chars start
  by_cases hlt : byteLength (upTo s.chars stop) < byteLength (upTo s.chars start)
  · have h : s.chars = upTo s.chars start ++ [] ++ rest := by rw [List.append_nil, hr]
    have ht : max (s.clamp stop) (s.clamp start) = byteLength (upTo s.chars start ++ []) := by
      rw [clamp_eq, clamp_eq, List.append_nil]
      omega
    rw [snippet_eq_quotePart h (clamp_eq start) ht, quote, if_pos hlt, List.drop_length]
  · obtain ⟨part, hp⟩ := prefix_of_byteLength_le (upTo_isPrefix s.chars start)
      (upTo_isPrefix s.chars stop) (Nat.le_of_not_lt hlt)
    obtain ⟨after, ha⟩ := upTo_isPrefix s.chars stop
    have h : s.chars = upTo s.chars start ++ part ++ after := by rw [hp, ha]
    have ht : max (s.clamp stop) (s.clamp start) = byteLength (upTo s.chars start ++ part) := by
      rw [clamp_eq, clamp_eq, hp]
      omega
    rw [snippet_eq_quotePart h (clamp_eq start) ht, quote, if_neg hlt, ← hp, List.drop_left]

-- The start lies inside the first character and the end past the text.
example : (Source.ofString "é\nb").snippet 1 9 0 = quote ['é', '\n', 'b'] 0 4 0 := by decide

end Source
end ScriptFeatures.Text

import Mathlib.Data.List.Infix
import ScriptFeatures.Text.Source

namespace ScriptFeatures.Text

def upTo (text : List Char) (offset : Nat) : List Char :=
  (text.inits.filter fun p => byteLength p ≤ offset).getLast?.getD []

theorem upTo_isPrefix (text : List Char) (offset : Nat) : upTo text offset <+: text := by
  rw [upTo]
  cases h : (text.inits.filter fun p => byteLength p ≤ offset).getLast? with
  | none => exact List.nil_prefix
  | some p => exact (List.mem_inits p text).1 (List.mem_filter.1 (List.mem_of_getLast? h)).1

theorem upTo_cons (c : Char) (cs : List Char) (offset : Nat) :
    upTo (c :: cs) offset =
      if c.utf8Size ≤ offset then c :: upTo cs (offset - c.utf8Size) else [] := by
  have hp (p : List Char) : byteLength (c :: p) ≤ offset ↔
      c.utf8Size ≤ offset ∧ byteLength p ≤ offset - c.utf8Size := by
    rw [byteLength]
    omega
  have hc : ((cs.inits.map (c :: ·)).filter fun p => byteLength p ≤ offset) =
      if c.utf8Size ≤ offset then
        (cs.inits.filter fun p => byteLength p ≤ offset - c.utf8Size).map (c :: ·)
      else [] := by
    rw [List.filter_map]
    by_cases h : c.utf8Size ≤ offset <;> simp [Function.comp_def, hp, h]
  rw [upTo, upTo, List.inits, List.filter_cons_of_pos (by simp [byteLength]), hc]
  by_cases h : c.utf8Size ≤ offset
  · have hn : (cs.inits.filter fun p => byteLength p ≤ offset - c.utf8Size) ≠ [] :=
      List.ne_nil_of_mem (a := []) (by simp [byteLength])
    rw [if_pos h, if_pos h, List.getLast?_cons, List.getLast?_map,
      List.getLast?_eq_some_getLast hn]
    rfl
  · simp [h]

theorem floorBoundary_eq (text : List Char) (offset : Nat) :
    floorBoundary text offset = byteLength (upTo text offset) := by
  induction text generalizing offset with
  | nil => simp [floorBoundary, upTo, byteLength]
  | cons c cs ih =>
    rw [upTo_cons, floorBoundary, ih]
    split <;> rfl

theorem prefix_of_byteLength_le {text a b : List Char} (ha : a <+: text) (hb : b <+: text)
    (h : byteLength a ≤ byteLength b) : a <+: b := by
  rcases List.prefix_or_prefix_of_prefix ha hb with hab | ⟨c, hc⟩
  · exact hab
  · cases c with
    | nil => exact ⟨[], by simpa using hc.symm⟩
    | cons c cs =>
      have hs := c.utf8Size_pos
      rw [← hc, byteLength_append, byteLength] at h
      omega

theorem dropBytes?_append (a b : List Char) : dropBytes? (byteLength a) (a ++ b) = some b := by
  induction a with
  | nil => simp [byteLength, dropBytes?]
  | cons c cs ih =>
    obtain ⟨n, hn⟩ := Nat.exists_eq_add_one.2 c.utf8Size_pos
    have he : byteLength (c :: cs) = n + byteLength cs + 1 := by
      rw [byteLength]
      omega
    rw [he, List.cons_append, dropBytes?, if_pos (by omega), ← ih]
    congr 1
    omega

theorem takeBytes?_append (a b : List Char) : takeBytes? (byteLength a) (a ++ b) = some a := by
  induction a with
  | nil => simp [byteLength, takeBytes?]
  | cons c cs ih =>
    obtain ⟨n, hn⟩ := Nat.exists_eq_add_one.2 c.utf8Size_pos
    have he : byteLength (c :: cs) = n + byteLength cs + 1 := by
      rw [byteLength]
      omega
    have hr : n + byteLength cs + 1 - c.utf8Size = byteLength cs := by omega
    rw [he, List.cons_append, takeBytes?, if_pos (by omega), hr, ih, Option.map_some]

namespace Source

variable {s : Source}

theorem clamp_eq (offset : Nat) : s.clamp offset = byteLength (upTo s.chars offset) :=
  floorBoundary_eq s.chars offset

/-- Between the ends of two prefixes of the text stands what the longer one has more. -/
theorem slice?_eq {before middle after : List Char} (h : s.chars = before ++ middle ++ after) :
    s.slice? (byteLength before) (byteLength (before ++ middle)) = some middle := by
  have hl : byteLength (before ++ middle) - byteLength before = byteLength middle := by
    rw [byteLength_append]
    omega
  rw [slice?, if_pos (by rw [byteLength_append]; omega), hl, h, List.append_assoc,
    dropBytes?_append, Option.bind_some, takeBytes?_append]

end Source
end ScriptFeatures.Text

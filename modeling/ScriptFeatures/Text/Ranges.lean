namespace ScriptFeatures.Text

/-- Whether a number lies in one of the ranges, which have to ascend. -/
def inRanges (ranges : Array (Nat × Nat)) (n : Nat) : Bool :=
  go 0 ranges.size 32
where
  /-- Halves the part of the table that can hold the number, `steps` times at most. -/
  go (lo hi : Nat) : Nat → Bool
    | 0 => false
    | steps + 1 =>
      if lo < hi then
        let middle := (lo + hi) / 2
        match ranges[middle]? with
        | none => false
        | some (first, last) =>
          if n < first then go lo middle steps
          else if last < n then go (middle + 1) hi steps
          else true
      else false

end ScriptFeatures.Text

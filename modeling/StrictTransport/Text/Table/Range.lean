namespace StrictTransport.Text.Table

-- Whether `c` lies in one of the ranges, which are sorted and include both ends.
def inRanges (c : Nat) : List (Nat × Nat) → Bool
  | [] => false
  | (first, last) :: rest =>
    if c < first then false else if c ≤ last then true else inRanges c rest

end StrictTransport.Text.Table

namespace MergeNotes.Chars

/-- Whether a character is in one of the ranges, each of which is a first and a last code point. -/
def inRanges (ranges : List (Nat × Nat)) (c : Char) : Bool :=
  ranges.any fun (first, last) => first ≤ c.toNat && c.toNat ≤ last

end MergeNotes.Chars

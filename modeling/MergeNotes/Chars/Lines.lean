namespace MergeNotes.Chars

/-- Lines of a text. A line feed ends a line, and a carriage return right before it belongs to the
terminator; the text after the last line feed is a line only if it is not empty. -/
def lines : List Char → List (List Char)
  | [] => []
  | '\n' :: cs => [] :: lines cs
  | '\r' :: '\n' :: cs => [] :: lines cs
  | c :: cs =>
    match lines cs with
    | [] => [[c]]
    | l :: ls => (c :: l) :: ls

end MergeNotes.Chars

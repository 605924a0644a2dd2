import MergeNotes.Chars.Blank
import MergeNotes.Chars.Lines
import MergeNotes.Chars.Search

namespace MergeNotes.Text

def isBlank (s : String) : Bool := Chars.allBlank s.toList

def trim (s : String) : String := String.ofList (Chars.trim s.toList)

def trimEnd (s : String) : String := String.ofList (Chars.trimEnd s.toList)

def lines (s : String) : List String := (Chars.lines s.toList).map String.ofList

def occursIn (pat s : String) : Bool := Chars.occursIn pat.toList s.toList

/-- Lower-case forms of the letters A to Z; every other character stays. -/
def asciiLower (s : String) : String := String.ofList (s.toList.map Char.toLower)

def joined (sep : String) (xs : List String) : String :=
  String.ofList (sep.toList.intercalate (xs.map String.toList))

end MergeNotes.Text

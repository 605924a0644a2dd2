import MergeNotes.Chars.Blank
import MergeNotes.Chars.Lines
import MergeNotes.Extraction.Comment

namespace MergeNotes.Extraction.Summary

def startsBlank : List Char → Bool
  | [] => true
  | c :: _ => Chars.isBlank c

/-- Drops a heading marker: number signs that a blank or the end of the line follows. -/
def dropHeading (line : List Char) : List Char :=
  let rest := line.dropWhile (· == '#')
  if line.head? == some '#' && startsBlank rest then Chars.trimStart rest else line

/-- A rule or an underline carries no text. -/
def isRuleChar (c : Char) : Bool := c == '-' || c == '=' || c == '*' || c == '_' || c == '+'

def isBullet (c : Char) : Bool := c == '-' || c == '*' || c == '+'

def dropBullet : List Char → List Char
  | c :: ' ' :: rest => if isBullet c then Chars.trimStart rest else c :: ' ' :: rest
  | line => line

/-- The text that a line carries, empty if none. -/
def cleanLine (line : List Char) : List Char :=
  let line := dropHeading (Chars.trim line)
  if line.all isRuleChar then [] else dropBullet line

def extract? (description : List Char) : Option (List Char) :=
  ((Chars.lines (Comment.strip description)).map cleanLine).find? (!·.isEmpty)

end MergeNotes.Extraction.Summary

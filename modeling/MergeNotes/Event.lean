import MergeNotes.Text

namespace MergeNotes

structure Event where
  /-- What happened; missing if the run was started with a description alone. -/
  action : Option String
  merged : Bool
  description : Option String
  targetBranch : String
  number : Option UInt64
  title : Option String
  deriving DecidableEq, Repr

namespace Event

def ofDescription (description targetBranch : String) (number : Option UInt64) : Event where
  action := none
  merged := true
  description := some description
  targetBranch := targetBranch
  number := number
  title := none

/-- Whether a merged pull request was closed; a missing action counts as that. -/
def isMergedClose (e : Event) : Bool := e.action.all (· == "closed") && e.merged

def descriptionText (e : Event) : String := e.description.getD ""

end Event
end MergeNotes

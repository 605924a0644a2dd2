import MergeNotes.Date
import MergeNotes.Entry
import MergeNotes.Event
import MergeNotes.Failure
import MergeNotes.Template

namespace MergeNotes.Render

open Template (Value)

def bindNumber (number : Option UInt64) : String × Value :=
  ("number", Template.ofOption Template.ofNumber number)

def bindTitle (title : Option String) : String × Value :=
  ("title", Template.ofOption Template.ofText title)

def entryBindings (text : String) (event : Event) (date : Date) : List (String × Value) := [
  ("text", Template.ofText text),
  bindNumber event.number,
  bindTitle event.title,
  ("branch", Template.ofText event.targetBranch),
  ("date", Template.ofText date.text)]

def entryName : String := "entry.template"

def entryTemplate (source : String) : Except Failure Template :=
  (Template.parse source).mapError (.template entryName)

/-- The entry that a template makes of a text; blank output makes none. -/
def entry (t : Template) (text : String) (event : Event) (date : Date) :
    Except Failure (Option Entry) :=
  match t.render (entryBindings text event date) with
  | .ok s => .ok (Entry.ofText? s)
  | .error e => .error (.template entryName e)

def messageName : String := "commit.message"

def messageBindings (event : Event) : List (String × Value) := [
  bindNumber event.number,
  bindTitle event.title,
  ("branch", Template.ofText event.targetBranch)]

/-- The message of a commit, without space around it; it must not be blank. -/
def message? (source : String) (event : Event) : Except Template.Error String := do
  let message := Text.trim (← (← Template.parse source).render (messageBindings event))
  if message.isEmpty then .error .blankMessage else return message

def message (source : String) (event : Event) : Except Failure String :=
  (message? source event).mapError (.template messageName)

end MergeNotes.Render

import MergeNotes.Disk
import MergeNotes.Failure
import MergeNotes.Json.Writer
import MergeNotes.Update.Outcome

namespace MergeNotes.Update.Outcome

def optionalMember (key : String) (value : Option String) : List (String × Json) :=
  (value.map fun s => (key, Json.ofString s)).toList

def members (o : Outcome) : List (String × Json) :=
  [("schema_version", Json.ofNat o.schemaVersion.toNat), ("appended", .bool o.appended)] ++
    optionalMember "entry" o.entry ++
    [("committed", .bool o.committed)] ++
    optionalMember "commit_sha" o.commitSha ++
    [("pushed", .bool o.pushed)] ++
    optionalMember "branch" o.branch ++
    optionalMember "skipped_reason" o.skippedReason

def json (o : Outcome) : Json := Json.ofMembers o.members

def text (o : Outcome) : String := o.json.toText

def outputLine (o : Outcome) : String := "json=" ++ o.text ++ "\n"

def record (o : Outcome) (file : Path) (d : Disk) : Except Failure Disk :=
  (d.append file o.outputLine.toUTF8).mapError .outputUnopened

end MergeNotes.Update.Outcome

namespace MergeNotes.Update

inductive Reason where
  | notMerged
  | noEntry
  | blankEntry
  | unchanged
  /-- There is nothing to commit, but commits of an earlier run were never pushed. -/
  | unchangedAhead (count : Nat) (remote branch : String)
  | alreadyOnRemote
  deriving DecidableEq, Repr

def Reason.message : Reason → String
  | notMerged => "Pull request was not merged"
  | noEntry => "No changelog entry in pull request description"
  | blankEntry => "Entry template rendered an empty line"
  | unchanged => "Changelog unchanged"
  | unchangedAhead count remote branch =>
    "Changelog unchanged; HEAD is " ++ toString count ++ " commit(s) ahead of " ++ remote ++ "/" ++
      branch
  | alreadyOnRemote => "Entry already on remote branch"

structure Outcome where
  /-- The version of the form in which outcomes are reported. -/
  schemaVersion : UInt32 := 1
  appended : Bool := false
  entry : Option String := none
  committed : Bool := false
  commitSha : Option String := none
  pushed : Bool := false
  branch : Option String := none
  skippedReason : Option String := none
  deriving DecidableEq, Repr

def Outcome.skipped (reason : Reason) : Outcome := { skippedReason := some reason.message }

end MergeNotes.Update

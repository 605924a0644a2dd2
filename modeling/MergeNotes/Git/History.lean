import MergeNotes.Git.Reference

namespace MergeNotes.Git

/-- Files of a commit or of an index by their locations below the root of the repository. -/
abbrev Tree := List (Location × ByteArray)

structure Snapshot where
  parents : List Sha
  tree : Tree

abbrev History := List (Sha × Snapshot)

namespace History

/-- More steps than there are ways from one commit to another to follow. -/
def enoughSteps (h : History) : Nat := h.foldl (fun n (_, c) => n + c.parents.length + 1) 1

/-- The commits that are reached from `pending`, added to those already seen; none if one of them
is not known. -/
def reach? (h : History) : Nat → List Sha → List Sha → Option (List Sha)
  | 0, _, seen => some seen
  | _, [], seen => some seen
  | fuel + 1, sha :: pending, seen =>
    if sha ∈ seen then reach? h fuel pending seen
    else match h.lookup sha with
      | none => none
      | some c => reach? h fuel (c.parents ++ pending) (sha :: seen)

def ancestors? (h : History) (sha : Sha) : Option (List Sha) := h.reach? h.enoughSteps [sha] []

/-- How many commits lead to `head` and not to `tracked`. -/
def ahead? (h : History) (head tracked : Sha) : Option Nat :=
  if head = tracked then some 0
  else do
    let ours ← h.ancestors? head
    let theirs ← h.ancestors? tracked
    return (ours.filter (· ∉ theirs)).length

end History
end MergeNotes.Git

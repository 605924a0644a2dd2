import MergeNotes.Entry
import MergeNotes.Failure

namespace MergeNotes.Update

structure Author where
  name : String
  email : String
  deriving DecidableEq, Repr

inductive Call where
  /-- The last line of the changelog that is not blank. -/
  | lastLine
  | append (e : Entry)
  | isChanged (path : Path)
  /-- Commits a file; the reply names the commit. -/
  | commit (message : String) (path : Path) (author : Author)
  | push (remote branch : String) (token : Option String)
  /-- Fetches a branch and moves to its tip. -/
  | reset (remote branch : String) (token : Option String)
  /-- How many commits the branch of a remote lacks, if that is known. -/
  | ahead (remote branch : String)
  deriving DecidableEq

abbrev Call.Reply : Call → Type
  | lastLine => Option String
  | append _ => Unit
  | isChanged _ => Bool
  | commit _ _ _ => String
  | push _ _ _ => Unit
  | reset _ _ _ => Unit
  | ahead _ _ => Option Nat

/-- What a run does with a changelog and a repository, as calls whose replies decide how it goes on.
A plan can be carried out by anything that answers its calls. -/
inductive Plan (α : Type) where
  | done (result : Except Failure α)
  | call (c : Call) (next : Except Failure c.Reply → Plan α)

namespace Plan

/-- Goes on with the reply to a call, or ends with its failure. -/
def ask (c : Call) (next : c.Reply → Plan α) : Plan α :=
  .call c fun
    | .ok r => next r
    | .error e => .done (.error e)

def exec (handle : (c : Call) → σ → Except Failure c.Reply × σ) : Plan α → σ → Except Failure α × σ
  | .done r, s => (r, s)
  | .call c next, s =>
    let (r, s) := handle c s
    exec handle (next r) s

end Plan
end MergeNotes.Update

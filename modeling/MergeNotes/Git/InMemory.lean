import MergeNotes.Update

namespace MergeNotes.Git

open Update (Author Call)

structure InMemory.Commit where
  sha : String
  message : String
  files : List Path
  author : Author

/-- A stand-in for a repository. It remembers what each file held at its last commit, and every
commit, push and reset; how pushes go and what is on the remote is set beforehand. -/
structure InMemory where
  disk : Disk
  /-- What files held when they were last committed; none if they were not there. -/
  snapshots : List (Path × Option String) := []
  remoteFiles : List (Path × String) := []
  commits : List InMemory.Commit := []
  pushes : List (String × String × Option String) := []
  resets : List (String × String) := []
  ahead : Option Nat := none
  /-- How many of the next pushes are rejected. -/
  failingPushes : Nat := 0
  branch : String := "main"

namespace InMemory

/-- Paths of the same components are one key. -/
def lookup (p : Path) (table : List (Path × α)) : Option α :=
  (table.find? (·.1.components = p.components)).map Prod.snd

def insert (p : Path) (a : α) (table : List (Path × α)) : List (Path × α) :=
  if (lookup p table).isSome then
    table.map fun (q, b) => (q, if q.components = p.components then a else b)
  else table ++ [(p, a)]

def read (g : InMemory) (p : Path) : Option String := (g.disk.readText p).toOption

def headSha (g : InMemory) : String := (g.commits.getLast?.map (·.sha)).getD "root"

def markCommitted (g : InMemory) (p : Path) : InMemory :=
  { g with snapshots := insert p (g.read p) g.snapshots }

def isChanged (g : InMemory) (p : Path) : Bool := g.read p ≠ (lookup p g.snapshots).join

def commit (g : InMemory) (message : String) (p : Path) (author : Author) : String × InMemory :=
  let sha := "fake-sha-" ++ toString (g.commits.length + 1)
  let g := g.markCommitted p
  (sha, { g with commits := g.commits ++ [⟨sha, message, [p], author⟩] })

def rejection (remote branch : String) : Failure :=
  .git ("git push " ++ remote ++ " HEAD:refs/heads/" ++ branch) "! [rejected] (fetch first)"

def push (g : InMemory) (remote branch : String) (token : Option String) :
    Except Failure Unit × InMemory :=
  match g.failingPushes with
  | n + 1 => (.error (rejection remote branch), { g with failingPushes := n })
  | 0 => (.ok (), { g with pushes := g.pushes ++ [(remote, branch, token)] })

/-- Writes what the remote has and counts it as committed, up to the first file that cannot be
written. -/
def checkOut (g : InMemory) : List (Path × String) → Except Failure Unit × InMemory
  | [] => (.ok (), g)
  | (p, content) :: rest =>
    match g.disk.write p content.toUTF8 with
    | .error e => (.error (.disk e), g)
    | .ok disk => checkOut (markCommitted { g with disk } p) rest

def reset (g : InMemory) (remote branch : String) : Except Failure Unit × InMemory :=
  checkOut { g with resets := g.resets ++ [(remote, branch)] } g.remoteFiles

def handle (document : Path) : (c : Call) → InMemory → Except Failure c.Reply × InMemory
  | .lastLine, g => ((Changelog.readLastLine g.disk document).mapError .disk, g)
  | .append e, g =>
    let (r, disk) := Changelog.append g.disk document e
    (r.mapError .disk, { g with disk })
  | .isChanged p, g => (.ok (g.isChanged p), g)
  | .commit message p author, g =>
    let (sha, g) := g.commit message p author
    (.ok sha, g)
  | .push remote branch token, g => g.push remote branch token
  | .reset remote branch _, g => g.reset remote branch
  | .ahead _ _, g => (.ok g.ahead, g)

def run (g : InMemory) (config : Config) (event : Event) (options : Update.Options) (today : Date) :
    Except Failure Update.Outcome × InMemory :=
  (Update.plan config event options today).exec (handle config.changelog.path) g

end InMemory
end MergeNotes.Git

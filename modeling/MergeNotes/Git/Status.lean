import MergeNotes.Git.Host

namespace MergeNotes.Git.Host

def readFailure (operation : String) : Failure := .git ("git2::" ++ operation) "unreadable"

def openFailure : Failure := readFailure "Repository::open"

def headFailure : Failure := readFailure "Repository::head"

def repository (h : Host) (root : Path) : Except Failure Repository :=
  (Repository.open? h.disk root).elim (.error openFailure) .ok

def historyOf (h : Host) (r : Repository) : History :=
  if r.directory = h.home then h.history else []

def indexOf (h : Host) (r : Repository) : Tree := if r.directory = h.home then h.index else []

inductive Head where
  /-- A commit, by the reference that the head finally leads to, or by the head itself. -/
  | born (reference : Reference.Name) (sha : Sha)
  /-- A reference that does not exist yet, by the name that the head gives. -/
  | unborn (reference : Reference.Name)
  | broken

def headName : Reference.Name := "HEAD".toList

def head (h : Host) (r : Repository) : Head :=
  match Reference.read h.disk r headName with
  | .error _ => .broken
  | .ok (.direct sha) => .born headName sha
  | .ok (.symbolic name) =>
    match Reference.resolve h.disk r name with
    | .ok (reference, sha) => .born reference sha
    | .error .missing => .unborn name
    | .error .broken => .broken

def headSha (h : Host) (root : Path) : Except Failure Sha := do
  match h.head (← h.repository root) with
  | .born _ sha => .ok sha
  | _ => .error headFailure

def branchText (failure : Failure) (name : Octets) : Except Failure String :=
  (Octets.text? name).elim (.error failure) .ok

def currentBranch (h : Host) (root : Path) : Except Failure String := do
  match h.head (← h.repository root) with
  | .born reference _ =>
    branchText (readFailure "Reference::shorthand") (Reference.shorthand reference)
  | .unborn reference =>
    branchText (.git "get_current_branch" "HEAD is detached and unborn")
      ((Chars.dropPrefix? "refs/heads/".toList reference).getD reference)
  | .broken => .error headFailure

/-- The files of the commit that is checked out; before the first commit there are none. -/
def headTree? (h : Host) (r : Repository) : Option Tree :=
  match h.head r with
  | .born _ sha => some (((h.historyOf r).lookup sha).elim [] Snapshot.tree)
  | .unborn _ => some []
  | .broken => none

/-- Names that a worktree does not hold, in letters of either case. -/
def isOwnName (s : Path.Segment) : Bool := s.map Char.toLower == Repository.ownName

/-- What lies below the root of a worktree, without the repository itself. -/
def below (h : Host) (r : Repository) : List (Location × Node) :=
  h.disk.nodes.filterMap fun (l, n) =>
    let path := l.drop r.worktree.length
    if r.worktree.isPrefixOf l && !path.any isOwnName then some (path, n) else none

def worktree (h : Host) (r : Repository) : Tree :=
  (h.below r).filterMap fun (l, n) =>
    match n with
    | .directory => none
    | .file content => some (l, content)

def nameOf (l : Location) : List Char := ['/'].intercalate l

/-- Whether a path speaks of a name: of that of a file, or of what is below it. -/
def covers (path name : List Char) : Bool :=
  name == path || (if path.getLast? = some '/' then path else path ++ ['/']).isPrefixOf name

structure Versions where
  committed : Option ByteArray
  staged : Option ByteArray
  present : Option ByteArray

def versions (committed staged present : Tree) (l : Location) : Versions :=
  ⟨committed.lookup l, staged.lookup l, present.lookup l⟩

/-- Whether a file differs from its commit; a file that is new counts unless it is ignored. -/
def Versions.isChanged (v : Versions) (isIgnored : Bool) : Bool :=
  (v.committed != v.staged || v.staged != v.present) &&
    !(v.staged.isNone && v.present.isSome && isIgnored)

structure Entry where
  name : List Char
  isChanged : Bool

/-- The directories that hold a repository of their own and no file of `tracked`, the outermost of
them only. What is new in them is not looked at. -/
def nested (h : Host) (r : Repository) (tracked : List Location) : List Location :=
  let isNested (l : Location) : Bool := l != [] &&
    (h.disk.node? (r.worktree ++ l ++ [Repository.ownName])).isSome &&
    !tracked.any fun file => l.isPrefixOf file && l != file
  ((h.below r).map Prod.fst).filter fun l =>
    isNested l && !(List.range l.length).any fun n => isNested (l.take n)

/-- Whether a path, read as a rule but without wildcards, takes in the name of a directory, which
has a slash at its end. -/
def takesIn (path name : List Char) : Bool :=
  match (Ignore.readRule path).1 with
  | none => true
  | some rule =>
    let start := if rule.negated then '!' :: rule.pattern else rule.pattern
    start == name || ((rule.negated || !rule.hasWildcard) && (start ++ ['/']).isPrefixOf name)

/-- A directory with a repository of its own is new if there is a file in it that is not ignored. -/
def nestedEntry (h : Host) (r : Repository) (l : Location) : Entry where
  name := nameOf l ++ ['/']
  isChanged := !Ignore.isIgnored h.disk r true l &&
    ((h.worktree r).map Prod.fst).any fun file => l.isPrefixOf file &&
      (List.range (file.length - l.length)).all fun n =>
        !Ignore.isIgnored h.disk r (l.length + n + 1 < file.length) (file.take (l.length + n + 1))

def entries (h : Host) (r : Repository) (committed : Tree) (path : List Char) : List Entry :=
  let staged := h.indexOf r
  let isCovered (l : Location) : Bool := covers path (nameOf l)
  let nested := h.nested r ((staged.map Prod.fst).filter isCovered)
  let present := (h.worktree r).filter fun (l, _) => !nested.any (·.isPrefixOf l)
  let files := (((committed ++ staged ++ present).map Prod.fst).filter isCovered).eraseDups
  let isTakenIn (l : Location) : Bool :=
    covers path (nameOf l ++ ['/']) && takesIn path (nameOf l ++ ['/'])
  files.map (fun l => ⟨nameOf l,
    (versions committed staged present l).isChanged (Ignore.isIgnored h.disk r false l)⟩) ++
    (nested.filter isTakenIn).map (h.nestedEntry r)

def statusFailure : Failure := readFailure "Repository::status_file"

def startsWithName (path : Path) : Bool :=
  path.components.head? matches some (.name _) && !path.text.toList.contains '\x00'

/-- Whether the file of a path, seen from the worktree, differs from its commit. A path that also
speaks of other files has no answer; one that speaks of none is unchanged. -/
def isChanged (h : Host) (root path : Path) : Except Failure Bool := do
  let r ← h.repository root
  if !startsWithName path then .error statusFailure
  else match h.headTree? r with
    | none => .error statusFailure
    | some committed =>
      let name := path.text.toList
      match h.entries r committed name with
      | [] => .ok false
      | [e] =>
        if e.name == name || Glob.isMatch false name e.name then .ok e.isChanged
        else .error statusFailure
      | _ => .error statusFailure

def trackingName (remote branch : String) : String :=
  "refs/remotes/" ++ remote ++ "/" ++ branch

/-- How many commits of the head the remembered branch of a remote lacks, if both are known. -/
def aheadOf (h : Host) (root : Path) (remote branch : String) : Except Failure (Option Nat) := do
  let r ← h.repository root
  let tracking := trackingName remote branch
  match Reference.resolve h.disk r (Octets.ofText tracking) with
  | .error .missing => .ok none
  | .error .broken => .error (readFailure ("Repository::refname_to_id(" ++ tracking ++ ")"))
  | .ok (_, tracked) =>
    match h.head r with
    | .unborn _ => .ok none
    | .broken => .error headFailure
    | .born _ sha =>
      match (h.historyOf r).ahead? sha tracked with
      | some n => .ok (some n)
      | none => .error (readFailure "Repository::graph_ahead_behind")

end MergeNotes.Git.Host

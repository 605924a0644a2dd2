import MergeNotes.Git.Glob
import MergeNotes.Git.Repository

namespace MergeNotes.Git.Ignore

structure Rule where
  negated : Bool
  directoryOnly : Bool
  /-- The pattern has a slash and is matched from the directory of its file on. -/
  anchored : Bool
  hasWildcard : Bool
  pattern : Octets

/-- What stands before the first end of a line that no backslash keeps, and the rest. -/
def cutRule : Octets → Octets × Octets
  | [] => ([], [])
  | '\\' :: c :: cs =>
    let (rule, rest) := cutRule cs
    ('\\' :: c :: rule, rest)
  | c :: cs =>
    if c == '\n' || c == '\x0c' || c == '\x0b' then ([], c :: cs)
    else
      let (rule, rest) := cutRule cs
      (c :: rule, rest)

def nextLine (cs : Octets) : Octets :=
  (cs.dropWhile (· != '\n')).dropWhile fun c => c == '\n' || c == '\r'

/-- Whether there is a wildcard that no backslash keeps. -/
def hasWildcard : Octets → Bool
  | [] => false
  | '\\' :: _ :: cs => hasWildcard cs
  | c :: cs => c == '*' || c == '?' || c == '[' || hasWildcard cs

/-- Drops the spaces at the end that no backslash keeps. -/
def dropSpaces : Octets → Octets
  | [] => []
  | '\\' :: c :: cs => '\\' :: c :: dropSpaces cs
  | c :: cs =>
    match dropSpaces cs with
    | [] => if c == ' ' || c == '\t' then [] else [c]
    | rest => c :: rest

/-- Drops the backslashes before blanks, and one at the end. -/
def unescape : Octets → Octets
  | [] => []
  | '\\' :: cs =>
    match cs with
    | [] => []
    | c :: cs => if Chars.isAsciiSpace c then c :: unescape cs else '\\' :: c :: unescape cs
  | c :: cs => c :: unescape cs

def dropReturn (cs : Octets) : Octets := if cs.getLast? == some '\r' then cs.dropLast else cs

def Rule.ofText? (negated : Bool) (text : Octets) : Option Rule :=
  let body := dropSpaces (dropReturn (if text.head? == some '/' then text.tail else text))
  if body.isEmpty then none
  else
    let directoryOnly := body.getLast? == some '/'
    some {
      negated
      directoryOnly
      anchored := (if directoryOnly then 1 else 0) < text.count '/'
      hasWildcard := Ignore.hasWildcard text
      pattern := unescape (if directoryOnly then body.dropLast else body) }

def readRule (cs : Octets) : Option Rule × Octets :=
  if cs.head? == some '#' || cs.head? == some '\n' || ['\r', '\n'].isPrefixOf cs then
    (none, nextLine cs)
  else
    let negated := cs.head? == some '!'
    let (text, rest) := cutRule (if negated then cs.tail else cs)
    (Rule.ofText? negated text, nextLine rest)

def isTail (a b : Octets) : Bool :=
  a == b || (!a.contains '/' && ('/' :: a).isSuffixOf b) ||
    (!b.contains '/' && ('/' :: b).isSuffixOf a)

/-- Whether a negated rule without wildcards can say anything of what another rule fits; the files
of both are in the directory `above`, which is written with a slash at its end. -/
def Rule.isMetBy (above : Octets) (r : Rule) (negation : Rule) : Bool :=
  if r.hasWildcard then Glob.isMatch r.anchored (above ++ r.pattern) (above ++ negation.pattern)
  else !r.negated && isTail r.pattern negation.pattern

/-- Adds a rule; one that only takes back what no rule before it says is left out. -/
def addRule (above : Octets) (rules : List Rule) (r : Rule) : List Rule :=
  if !r.negated || r.hasWildcard || rules.any (·.isMetBy above r) then rules ++ [r] else rules

def readLines (above : Octets) : Nat → List Rule → Octets → List Rule
  | 0, rules, _ => rules
  | _, rules, [] => rules
  | fuel + 1, rules, cs =>
    let (r?, rest) := readRule cs
    readLines above fuel (r?.elim rules (addRule above rules)) rest

def readRules (above : Octets) (content : ByteArray) : List Rule :=
  let cs := Octets.untilNul (Octets.ofBytes content)
  let cs := (Chars.dropPrefix? (Octets.ofText "\ufeff") cs).getD cs
  readLines above (cs.length + 1) [] cs

def nameOf (l : Location) : Octets := Octets.ofText (String.ofList (['/'].intercalate l))

def Rule.fits (r : Rule) (isDirectory : Bool) (below : Location) : Bool :=
  (isDirectory || !r.directoryOnly) &&
    Glob.isMatch r.anchored r.pattern
      (nameOf (if r.anchored then below else below.drop (below.length - 1)))

/-- What the rules of one file say of something, the last of them first. -/
def verdict? (rules : List Rule) (isDirectory : Bool) (below : Location) : Option Bool :=
  (rules.reverse.find? (·.fits isDirectory below)).map (!·.negated)

def rulesOf (d : Disk) (above : Location) (l : Location) : List Rule :=
  match d.node? l with
  | some (.file content) => readRules (above.flatMap fun s => nameOf [s] ++ ['/']) content
  | _ => []

/-- What the files in the directories above something say of it, the deepest first, and then the
repository's own. The root has no directory above it and goes by its own file. -/
def verdictFrom? (d : Disk) (r : Repository) (isDirectory : Bool) (path : Location) : Option Bool :=
  let levels := (List.range (max path.length 1)).reverse
  (levels.findSome? fun n =>
    let above := path.take n
    let rules := rulesOf d above (r.worktree ++ above ++ [".gitignore".toList])
    verdict? rules isDirectory (path.drop n)) <|>
  verdict? (rulesOf d [] (r.directory ++ ["info".toList, "exclude".toList])) isDirectory path

/-- Whether something is ignored; what no rule mentions is as the directory above it. -/
def isIgnored (d : Disk) (r : Repository) (isDirectory : Bool) (path : Location) : Bool :=
  (List.range (path.length + 1)).foldl (fun ignored n =>
    (verdictFrom? d r (isDirectory || n < path.length) (path.take n)).getD ignored) false

end MergeNotes.Git.Ignore

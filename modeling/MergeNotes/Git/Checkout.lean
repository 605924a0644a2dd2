import MergeNotes.Bytes.Base64
import MergeNotes.Git.Status
import MergeNotes.Update

namespace MergeNotes.Git.Host

open Update (Author Call)

def identitySettings (author : Author) : List String :=
  ["user.name=" ++ author.name, "user.email=" ++ author.email]

/-- The setting that carries a token; a blank token is none. -/
def tokenSettings (token : Option String) : List String :=
  match token.map Text.trim with
  | some token =>
    if token.isEmpty then []
    else ["http.extraheader=AUTHORIZATION: basic " ++ Bytes.base64 ("x-access-token:" ++ token)]
  | none => []

def addCall (file : Path) : Invocation := ⟨[], ["add", "--", file.text]⟩

def commitCall (message : String) (files : List Path) (author : Author) : Invocation :=
  ⟨identitySettings author, ["commit", "-m", message, "--"] ++ files.map Path.text⟩

def branchName (branch : String) : String := "refs/heads/" ++ branch

def pushCall (remote branch : String) (token : Option String) : Invocation :=
  ⟨tokenSettings token, ["push", remote, "HEAD:" ++ branchName branch]⟩

def fetchCall (remote branch : String) (token : Option String) : Invocation :=
  ⟨tokenSettings token, ["fetch", remote, branchName branch]⟩

/-- The reset that leaves other local changes alone. -/
def resetCall : Invocation := ⟨[], ["reset", "--keep", "FETCH_HEAD"]⟩

def invokeAll (h : Host) (root : Path) : List Invocation → Except Failure Unit × Host
  | [] => (.ok (), h)
  | i :: is =>
    match h.invoke root i with
    | (.ok (), h) => h.invokeAll root is
    | (.error e, h) => (.error e, h)

/-- Commits files, given as they are or below the root; the reply is the head after that. -/
def commit (h : Host) (root : Path) (message : String) (files : List Path) (author : Author) :
    Except Failure Sha × Host :=
  let files := files.map (Path.relativeTo root)
  match h.invokeAll root (files.map addCall ++ [commitCall message files author]) with
  | (.ok (), h) => (h.headSha root, h)
  | (.error e, h) => (.error e, h)

def push (h : Host) (root : Path) (remote branch : String) (token : Option String) :
    Except Failure Unit × Host :=
  h.invoke root (pushCall remote branch token)

def reset (h : Host) (root : Path) (remote branch : String) (token : Option String) :
    Except Failure Unit × Host :=
  h.invokeAll root [fetchCall remote branch token, resetCall]

def handle (root document : Path) : (c : Call) → Host → Except Failure c.Reply × Host
  | .lastLine, h => ((Changelog.readLastLine h.disk document).mapError .disk, h)
  | .append e, h =>
    let (r, disk) := Changelog.append h.disk document e
    (r.mapError .disk, { h with disk })
  | .isChanged p, h => (h.isChanged root (Path.relativeTo root p), h)
  | .commit message p author, h => h.commit root message [p] author
  | .push remote branch token, h => h.push root remote branch token
  | .reset remote branch token, h => h.reset root remote branch token
  | .ahead remote branch, h => (h.aheadOf root remote branch, h)

def run (h : Host) (root : Path) (config : Config) (event : Event) (options : Update.Options)
    (today : Date) : Except Failure Update.Outcome × Host :=
  (Update.plan config event options today).exec (handle root (root.join config.changelog.path)) h

end MergeNotes.Git.Host

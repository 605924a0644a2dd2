import MergeNotes.Git.Checkout
import MergeNotes.Proofs.Plan

namespace MergeNotes.Git.Host

open Update (Job Options Plan Author Call Outcome Delivers entryOf plan)

inductive Command where
  | add
  | commit
  | push
  | fetch
  | reset
  deriving DecidableEq

structure Terms where
  path : String
  message : String
  author : Author
  remote : String
  branch : String
  header : Option String

namespace Terms

def settings (t : Terms) : List String := t.header.toList.map ("http.extraheader=" ++ ·)

def invocation (t : Terms) : Command → Invocation
  | .add => ⟨[], ["add", "--", t.path]⟩
  | .commit =>
    ⟨["user.name=" ++ t.author.name, "user.email=" ++ t.author.email],
      ["commit", "-m", t.message, "--", t.path]⟩
  | .push => ⟨t.settings, ["push", t.remote, "HEAD:refs/heads/" ++ t.branch]⟩
  | .fetch => ⟨t.settings, ["fetch", t.remote, "refs/heads/" ++ t.branch]⟩
  | .reset => ⟨[], ["reset", "--keep", "FETCH_HEAD"]⟩

/-- The header that carries a token; a blank token is none. -/
def header? (token : Option String) : Option String :=
  match token.map Text.trim with
  | some token =>
    if token.isEmpty then none
    else some ("AUTHORIZATION: basic " ++ Bytes.base64 ("x-access-token:" ++ token))
  | none => none

def ofJob (root : Path) (job : Job) (message : String) (author : Author) : Terms where
  path := (Path.relativeTo root job.path).text
  message := message
  author := author
  remote := job.remote
  branch := job.branch
  header := header? job.token

theorem tokenSettings_eq (token : Option String) :
    tokenSettings token = (header? token).toList.map ("http.extraheader=" ++ ·) := by
  have hname (s : String) : "http.extraheader=AUTHORIZATION: basic " ++ s =
      "http.extraheader=" ++ ("AUTHORIZATION: basic " ++ s) := by
    rw [← String.append_assoc]
    rfl
  unfold tokenSettings header?
  cases token.map Text.trim with
  | none => rfl
  | some token =>
    dsimp only
    split_ifs
    · rfl
    · rw [hname]
      rfl

theorem pushCall_eq (root : Path) (job : Job) (message : String) (author : Author) :
    pushCall job.remote job.branch job.token =
      (ofJob root job message author).invocation .push := by
  have hname (s : String) : "HEAD:" ++ ("refs/heads/" ++ s) = "HEAD:refs/heads/" ++ s := by
    rw [← String.append_assoc]
    rfl
  rw [pushCall, tokenSettings_eq, branchName, hname]
  rfl

theorem fetchCall_eq (root : Path) (job : Job) (message : String) (author : Author) :
    fetchCall job.remote job.branch job.token =
      (ofJob root job message author).invocation .fetch := by
  rw [fetchCall, tokenSettings_eq, branchName]
  rfl

def failure (t : Terms) (c : Command) (reply : Reply) : Failure :=
  complaint (t.invocation c).args (details reply)

end Terms

abbrev Log := List (Command × Reply)

inductive Ran (t : Terms) : Host → Log → Host → Prop
  | quiet {h h' : Host} (same : h'.executable = h.executable) : Ran t h [] h'
  | call {h h₁ h' : Host} {c : Command} {log : Log}
      (calls : h₁.executable.calls = h.executable.calls ++ [t.invocation c])
      (replies : h₁.executable.replies = h.executable.replies.tail)
      (rest : Ran t h₁ log h') :
      Ran t h ((c, h.executable.replies.headD {}) :: log) h'

variable {t : Terms} {h h₁ h' : Host} {log log' : Log}

theorem Ran.of_same (same : h₁.executable = h.executable) (hran : Ran t h₁ log h') :
    Ran t h log h' := by
  cases hran with
  | quiet same' => exact .quiet (same'.trans same)
  | call calls replies rest =>
    rw [same] at calls replies ⊢
    exact .call calls replies rest

theorem Ran.append (hran : Ran t h log h₁) (hran' : Ran t h₁ log' h') :
    Ran t h (log ++ log') h' := by
  induction hran with
  | quiet same => exact hran'.of_same same
  | call calls replies rest ih => exact .call calls replies (ih hran')

theorem Ran.calls_eq (hran : Ran t h log h') :
    h'.executable.calls = h.executable.calls ++ log.map fun x => t.invocation x.1 := by
  induction hran with
  | quiet same => simp [same]
  | call calls replies rest ih => simp [ih, calls]

theorem Ran.reply_eq (hran : Ran t h log h') (k : Nat) (hk : k < log.length) :
    log[k].2 = h.executable.replies.getD k {} := by
  induction hran generalizing k with
  | quiet => cases hk
  | @call h _ _ _ _ calls replies rest ih =>
    cases k with
    | zero => cases h.executable.replies <;> rfl
    | succ k =>
      have hrest := ih k (by simpa using hk)
      rw [replies] at hrest
      rw [List.getElem_cons_succ, hrest]
      cases h.executable.replies <;> simp

/-! The monitor -/

/-- What a log has to be like if the run comes to `r`, where `allowed` commands may follow and a
push may be tried again so many times: whatever fails ends the run, unless it is a push with a retry
left, and a push that succeeds ends it as well. -/
def Obeys (t : Terms) : List Command → Nat → Log → Except Failure Outcome → Prop
  | _, _, [], _ => True
  | [], _, _ :: _, _ => False
  | a :: allowed, n, (c, reply) :: log, r =>
    c = a ∧
      if reply.code = 0 then
        if c = .push then log = [] ∧ ∃ o, r = .ok o ∧ o.pushed = true
        else Obeys t allowed n log r
      else if c = .push ∧ 0 < n then Obeys t allowed (n - 1) log r
      else log = [] ∧ r = .error (t.failure c reply)

def pushes : Nat → List Command
  | 0 => [.push]
  | n + 1 => [.push, .fetch, .reset, .add, .commit] ++ pushes n

structure Succeeds (cs : List Command) (log : Log) : Prop where
  commands : log.map Prod.fst = cs
  codes : ∀ x ∈ log, x.2.code = 0

variable {cs allowed : List Command} {c : Command} {n : Nat} {r : Except Failure Outcome}

theorem obeys_nil : Obeys t allowed n [] r := by
  cases allowed <;> trivial

theorem Succeeds.append {cs' : List Command} (hlog : Succeeds cs log) (hlog' : Succeeds cs' log') :
    Succeeds (cs ++ cs') (log ++ log') where
  commands := by rw [List.map_append, hlog.commands, hlog'.commands]
  codes x hx := by
    rcases List.mem_append.1 hx with hx | hx
    · exact hlog.codes x hx
    · exact hlog'.codes x hx

/-- Where all went well, the monitor goes on with what is left. -/
theorem Succeeds.obeys (hpush : .push ∉ cs) (hlog : Succeeds cs log)
    (hobeys : Obeys t allowed n log' r) : Obeys t (cs ++ allowed) n (log ++ log') r := by
  obtain ⟨rfl, hcodes⟩ := hlog
  induction log with
  | nil => exact hobeys
  | cons x log ih =>
    obtain ⟨c, reply⟩ := x
    have hc : c ≠ .push := fun h => hpush (by simp [h])
    have hcode : reply.code = 0 := hcodes (c, reply) List.mem_cons_self
    refine ⟨rfl, ?_⟩
    rw [if_pos hcode, if_neg hc]
    apply ih
    · exact fun x hx => hcodes x (List.mem_cons_of_mem _ hx)
    · exact fun h => hpush (List.mem_cons_of_mem _ h)

theorem Obeys.commands_prefix (hobeys : Obeys t allowed n log r) :
    log.map Prod.fst <+: allowed := by
  induction log generalizing allowed n with
  | nil => exact List.nil_prefix
  | cons x log ih =>
    obtain ⟨c, reply⟩ := x
    cases allowed with
    | nil => exact hobeys.elim
    | cons a allowed =>
      obtain ⟨rfl, hrest⟩ := hobeys
      rw [List.map_cons, List.cons_prefix_cons]
      refine ⟨rfl, ?_⟩
      split_ifs at hrest
      · simp [hrest.1]
      · exact ih hrest
      · exact ih hrest
      · simp [hrest.1]

/-- What the monitor tells of any call of a log. -/
theorem Obeys.spec (hobeys : Obeys t allowed n log r) {before after : Log} {reply : Reply}
    (hlog : log = before ++ (c, reply) :: after) :
    (c ≠ .push → reply.code ≠ 0 → after = [] ∧ r = .error (t.failure c reply)) ∧
    (c = .push → reply.code = 0 → after = [] ∧ ∃ o, r = .ok o ∧ o.pushed = true) ∧
    (c = .push → reply.code ≠ 0 → (before.map Prod.fst).count .push = n →
      after = [] ∧ r = .error (t.failure c reply)) := by
  -- along the calls before the one that is asked about
  induction before generalizing log allowed n with
  | nil =>
    subst hlog
    cases allowed with
    | nil => exact hobeys.elim
    | cons a allowed =>
      obtain ⟨rfl, hrest⟩ := hobeys
      split_ifs at hrest with hcode hc hretry
      · exact ⟨fun h => absurd hc h, fun _ _ => hrest, fun _ h => absurd hcode h⟩
      · exact ⟨fun _ h => absurd hcode h, fun h => absurd h hc, fun h => absurd h hc⟩
      · refine ⟨fun h => absurd hretry.1 h, fun _ h => absurd h hcode, fun _ _ hn => ?_⟩
        simp only [List.map_nil, List.count_nil] at hn
        omega
      · exact ⟨fun _ _ => hrest, fun _ h => absurd h hcode, fun _ _ _ => hrest⟩
  | cons x before ih =>
    subst hlog
    obtain ⟨c', reply'⟩ := x
    cases allowed with
    | nil => exact hobeys.elim
    | cons a allowed =>
      obtain ⟨rfl, hrest⟩ := hobeys
      split_ifs at hrest with hcode hc hretry
      · simp at hrest
      · have h := ih hrest rfl
        rwa [← List.count_cons_of_ne hc (l := before.map Prod.fst)] at h
      · -- one retry less, and one push more before the call
        obtain ⟨hfirst, hlast, hcount⟩ := ih hrest rfl
        refine ⟨hfirst, hlast, fun h hfail hn => hcount h hfail ?_⟩
        simp only [List.map_cons, hretry.1, List.count_cons_self] at hn
        omega
      · simp at hrest

/-! Calls on a host -/

variable {root document : Path} {job : Job}

theorem invoke_log {result : Except Failure Unit}
    (hinvoke : h.invoke root (t.invocation c) = (result, h')) :
    (h' = h ∧ (h.startFault? root (t.invocation c)).isSome ∧ ∃ failure, result = .error failure) ∨
      ∃ reply, Ran t h [(c, reply)] h' ∧
        result = if reply.code = 0 then .ok () else .error (t.failure c reply) := by
  unfold invoke at hinvoke
  split at hinvoke
  · rename_i fault hfault
    cases hinvoke
    exact .inl ⟨rfl, by simp [hfault], _, rfl⟩
  · refine .inr ⟨h.executable.replies.headD {}, ?_⟩
    dsimp only at hinvoke
    split_ifs at hinvoke with hcode
    · cases hinvoke
      exact ⟨.call rfl rfl (.quiet rfl), (if_pos hcode).symm⟩
    · cases hinvoke
      exact ⟨.call rfl rfl (.quiet rfl), (if_neg hcode).symm⟩

theorem invokeAll_log {result : Except Failure Unit} (hpush : .push ∉ cs)
    (hinvoke : h.invokeAll root (cs.map t.invocation) = (result, h')) :
    ∃ log, Ran t h log h' ∧
      ((result = .ok () ∧ Succeeds cs log) ∨
        ∃ failure, result = .error failure ∧
          ∀ allowed n, Obeys t (cs ++ allowed) n log (.error failure)) := by
  induction cs generalizing h with
  | nil =>
    cases hinvoke
    exact ⟨[], .quiet rfl, .inl ⟨rfl, rfl, by nofun⟩⟩
  | cons c cs ih =>
    have hc : c ≠ .push := fun h => hpush (h ▸ List.mem_cons_self)
    rw [List.map_cons, invokeAll] at hinvoke
    rcases hfirst : h.invoke root (t.invocation c) with ⟨failure | ⟨⟩, h₁⟩
    · rw [hfirst] at hinvoke
      cases hinvoke
      rcases invoke_log hfirst with ⟨rfl, -, -⟩ | ⟨reply, hran, hresult⟩
      -- nothing is logged of a call that cannot be started
      · exact ⟨[], .quiet rfl, .inr ⟨failure, rfl, fun _ _ => obeys_nil⟩⟩
      · split_ifs at hresult with hcode
        cases hresult
        refine ⟨[(c, reply)], hran, .inr ⟨_, rfl, fun allowed n => ⟨rfl, ?_⟩⟩⟩
        rw [if_neg hcode, if_neg (fun h => hc h.1)]
        exact ⟨rfl, rfl⟩
    · rw [hfirst] at hinvoke
      rcases invoke_log hfirst with ⟨-, -, _, hfailure⟩ | ⟨reply, hran, hresult⟩
      · cases hfailure
      · split_ifs at hresult with hcode
        have hone : Succeeds [c] [(c, reply)] := ⟨rfl, by simp [hcode]⟩
        obtain ⟨log, hrest, hlog⟩ := ih (fun h => hpush (List.mem_cons_of_mem _ h)) hinvoke
        refine ⟨(c, reply) :: log, hran.append hrest, ?_⟩
        rcases hlog with ⟨rfl, hlog⟩ | ⟨failure, rfl, hlog⟩
        · exact .inl ⟨rfl, hone.append hlog⟩
        · have hone' : .push ∉ [c] := by simpa using hc.symm
          exact .inr ⟨failure, rfl, fun allowed n => hone.obeys hone' (hlog allowed n)⟩

/-- If a push cannot be started, then neither can a fetch. -/
theorem startFault?_fetch (hfault : (h.startFault? root (t.invocation .push)).isSome) :
    (h.startFault? root (t.invocation .fetch)).isSome := by
  -- both are given the branch, behind texts without a zero character
  have hnul (s : String) : ("HEAD:refs/heads/" ++ s).toList.contains '\x00' =
      ("refs/heads/" ++ s).toList.contains '\x00' := by
    have hleft : "HEAD:refs/heads/".toList.contains '\x00' = false := by decide +kernel
    have hright : "refs/heads/".toList.contains '\x00' = false := by decide +kernel
    rw [String.toList_append, String.toList_append, List.contains_append, List.contains_append,
      hleft, hright]
  have hany : ((root.text :: (t.invocation .push).argv).any (·.toList.contains '\x00')) =
      ((root.text :: (t.invocation .fetch).argv).any (·.toList.contains '\x00')) := by
    have hpush : "push".toList.contains '\x00' = "fetch".toList.contains '\x00' := by
      decide +kernel
    simp only [Terms.invocation, Invocation.argv, List.any_cons, List.any_append, hnul, hpush]
  rw [startFault?, hany] at hfault
  exact hfault

/-- What an attempt has to log, given what it comes to. -/
def Attempts (t : Terms) (log : Log) : Except Failure Job.Attempt → Prop
  | .ok ⟨_, some (message, _)⟩ => message = t.message ∧ Succeeds [.add, .commit] log
  | .ok ⟨_, none⟩ => log = []
  | .error failure => ∀ allowed n, Obeys t ([.add, .commit] ++ allowed) n log (.error failure)

theorem exec_record {α : Type} {next : Bool → Plan α} {result : Except Failure α}
    (hexec : (job.record next).exec (handle root document) h = (result, h')) :
    ∃ h₁ : Host, h₁.executable = h.executable ∧
      ((∃ failure, result = .error failure ∧ h' = h₁) ∨
        ∃ added, (next added).exec (handle root document) h₁ = (result, h')) := by
  rw [Job.record, Plan.exec_ask, handle] at hexec
  cases hlast : Changelog.readLastLine h.disk document with
  | error err =>
    rw [hlast] at hexec
    cases hexec
    exact ⟨h, rfl, .inl ⟨_, rfl, rfl⟩⟩
  | ok last =>
    simp only [hlast, Except.mapError] at hexec
    split_ifs at hexec
    · exact ⟨h, rfl, .inr ⟨false, hexec⟩⟩
    · rw [Plan.exec_ask, handle] at hexec
      rcases happend : Changelog.append h.disk document job.entry with ⟨err | ⟨⟩, disk⟩
      · rw [happend] at hexec
        cases hexec
        exact ⟨{ h with disk }, rfl, .inl ⟨_, rfl, rfl⟩⟩
      · rw [happend] at hexec
        exact ⟨{ h with disk }, rfl, .inr ⟨true, hexec⟩⟩

theorem commit_log {message : String} {author : Author} {result : Except Failure Sha}
    (hcommit : h.commit root message [job.path] author = (result, h')) :
    ∃ log, Ran (.ofJob root job message author) h log h' ∧
      ((∃ sha, result = .ok sha ∧ Succeeds [.add, .commit] log) ∨
        ∃ failure, result = .error failure ∧ ∀ allowed n,
          Obeys (.ofJob root job message author) ([.add, .commit] ++ allowed) n log
            (.error failure)) := by
  have hcalls : [Path.relativeTo root job.path].map addCall ++
      [commitCall message [Path.relativeTo root job.path] author] =
      [.add, .commit].map (Terms.ofJob root job message author).invocation := rfl
  have hpush : Command.push ∉ [Command.add, .commit] := by decide
  rw [commit, List.map_singleton, hcalls] at hcommit
  rcases hinvoke : h.invokeAll root ([.add, .commit].map
    (Terms.ofJob root job message author).invocation) with ⟨failure | ⟨⟩, h₁⟩
  · rw [hinvoke] at hcommit
    cases hcommit
    obtain ⟨log, hran, ⟨hok, -⟩ | ⟨_, hfailure, hobeys⟩⟩ := invokeAll_log hpush hinvoke
    · cases hok
    · cases hfailure
      exact ⟨log, hran, .inr ⟨failure, rfl, hobeys⟩⟩
  · rw [hinvoke] at hcommit
    cases hcommit
    obtain ⟨log, hran, ⟨-, hlog⟩ | ⟨_, hfailure, -⟩⟩ := invokeAll_log hpush hinvoke
    · refine ⟨log, hran, ?_⟩
      -- the calls are made, but the new head may be unreadable
      cases h'.headSha root with
      | ok sha => exact .inl ⟨sha, rfl, hlog⟩
      | error failure =>
        refine .inr ⟨failure, rfl, fun allowed n => ?_⟩
        rw [← List.append_nil log]
        exact hlog.obeys hpush obeys_nil
    · cases hfailure

theorem attempt_log {message : Except Failure String} {m : String} {author : Author}
    {result : Except Failure Job.Attempt} (hmessage : ∀ m', message = .ok m' → m' = m)
    (hexec : (job.attempt message author).exec (handle root document) h = (result, h')) :
    ∃ log, Ran (.ofJob root job m author) h log h' ∧ (log ≠ [] → message = .ok m) ∧
      Attempts (.ofJob root job m author) log result := by
  obtain ⟨h₁, hsame, ⟨failure, rfl, rfl⟩ | ⟨added, hrest⟩⟩ := exec_record hexec
  · exact ⟨[], .quiet hsame, by nofun, fun _ _ => obeys_nil⟩
  rw [Plan.exec_ask, handle] at hrest
  cases hchanged : h₁.isChanged root (Path.relativeTo root job.path) with
  | error failure =>
    rw [hchanged] at hrest
    cases hrest
    exact ⟨[], .quiet hsame, by nofun, fun _ _ => obeys_nil⟩
  | ok changed =>
    rw [hchanged] at hrest
    dsimp only at hrest
    split_ifs at hrest
    · cases message with
      | error err =>
        cases hrest
        exact ⟨[], .quiet hsame, by nofun, fun _ _ => obeys_nil⟩
      | ok m' =>
        obtain rfl := hmessage m' rfl
        rw [Plan.exec_ask, handle] at hrest
        rcases hcommit : h₁.commit root m' [job.path] author with ⟨failure | sha, h₂⟩
        · rw [hcommit] at hrest
          cases hrest
          obtain ⟨log, hran, ⟨_, hsha, -⟩ | ⟨_, hfailure, hobeys⟩⟩ := commit_log hcommit
          · cases hsha
          · cases hfailure
            exact ⟨log, hran.of_same hsame, fun _ => rfl, hobeys⟩
        · rw [hcommit] at hrest
          cases hrest
          obtain ⟨log, hran, ⟨_, -, hlog⟩ | ⟨_, hfailure, -⟩⟩ := commit_log hcommit
          · exact ⟨log, hran.of_same hsame, fun _ => rfl, rfl, hlog⟩
          · cases hfailure
    · cases hrest
      exact ⟨[], .quiet hsame, by nofun, rfl⟩

theorem reset_eq (job : Job) (message : String) (author : Author) :
    h.reset root job.remote job.branch job.token =
      h.invokeAll root ([.fetch, .reset].map (Terms.ofJob root job message author).invocation) := by
  rw [reset, Terms.fetchCall_eq root job message author]
  rfl

theorem push_eq (job : Job) (message : String) (author : Author) :
    h.push root job.remote job.branch job.token =
      h.invoke root ((Terms.ofJob root job message author).invocation .push) := by
  rw [push, Terms.pushCall_eq root job message author]

/-- A push that fails was made, or nothing can be started and the reset fails as well. -/
theorem push_log (message : String) (author : Author) {failure : Failure}
    (hpush : h.push root job.remote job.branch job.token = (.error failure, h₁)) :
    (h₁ = h ∧ ∃ failure', h₁.reset root job.remote job.branch job.token = (.error failure', h₁)) ∨
      ∃ reply, Ran (.ofJob root job message author) h [(.push, reply)] h₁ ∧ reply.code ≠ 0 ∧
        failure = (Terms.ofJob root job message author).failure .push reply := by
  rw [push_eq job message author] at hpush
  rcases invoke_log hpush with ⟨rfl, hfault, -⟩ | ⟨reply, hran, hresult⟩
  · refine .inl ⟨rfl, ?_⟩
    -- a fetch is given the same remote and branch, in the same place
    obtain ⟨fault, hfetch⟩ := Option.isSome_iff_exists.1 (startFault?_fetch hfault)
    rw [reset_eq job message author, List.map_cons, invokeAll, invoke, hfetch]
    exact ⟨_, rfl⟩
  · split_ifs at hresult with hcode
    cases hresult
    exact .inr ⟨reply, hran, hcode, rfl⟩

theorem obeys_retry {reply : Reply} (hcode : reply.code ≠ 0)
    (hobeys : Obeys t ([.fetch, .reset] ++ ([.add, .commit] ++ pushes n)) n log r) :
    Obeys t (pushes (n + 1)) (n + 1) ((.push, reply) :: log) r := by
  refine ⟨rfl, ?_⟩
  rw [if_neg hcode, if_pos ⟨rfl, n.succ_pos⟩]
  exact hobeys

theorem unreset_log (message : String) (author : Author) {failure failure' : Failure}
    (hpush : h.push root job.remote job.branch job.token = (.error failure, h₁))
    (hreset : h₁.reset root job.remote job.branch job.token = (.error failure', h')) :
    ∃ log, Ran (.ofJob root job message author) h log h' ∧
      ∀ n, Obeys (.ofJob root job message author) (pushes (n + 1)) (n + 1) log
        (.error failure') := by
  rcases push_log message author hpush with ⟨rfl, _, hfault⟩ | ⟨reply, hran, hcode, -⟩
  · rw [hfault] at hreset
    cases hreset
    exact ⟨[], .quiet rfl, fun _ => obeys_nil⟩
  · rw [reset_eq job message author] at hreset
    obtain ⟨log, hran', ⟨hok, -⟩ | ⟨_, hfailure, hobeys⟩⟩ := invokeAll_log (by decide) hreset
    · cases hok
    · cases hfailure
      exact ⟨_, hran.append hran', fun n => obeys_retry hcode (hobeys _ n)⟩

/-- A push that fails and a reset that does not. What comes after is the retry. -/
theorem reset_log (message : String) (author : Author) {failure : Failure}
    (hpush : h.push root job.remote job.branch job.token = (.error failure, h₁))
    (hreset : h₁.reset root job.remote job.branch job.token = (.ok (), h')) :
    ∃ log, Ran (.ofJob root job message author) h log h' ∧ ∀ n log' r,
      Obeys (.ofJob root job message author) ([.add, .commit] ++ pushes n) n log' r →
      Obeys (.ofJob root job message author) (pushes (n + 1)) (n + 1) (log ++ log') r := by
  rcases push_log message author hpush with ⟨rfl, _, hfault⟩ | ⟨reply, hran, hcode, -⟩
  · rw [hfault] at hreset
    cases hreset
  · have hmem : Command.push ∉ [Command.fetch, Command.reset] := by decide
    rw [reset_eq job message author] at hreset
    obtain ⟨log, hran', ⟨-, hlog⟩ | ⟨_, hfailure, -⟩⟩ := invokeAll_log hmem hreset
    · exact ⟨_, hran.append hran', fun n log' r hobeys =>
        obeys_retry hcode (hlog.obeys hmem hobeys)⟩
    · cases hfailure

theorem pushes_log {message : String} {author : Author} {o : Outcome}
    (hpushes : Job.Pushes (handle root document) job message author n o h r h') :
    ∃ log, Ran (.ofJob root job message author) h log h' ∧
      Obeys (.ofJob root job message author) (pushes n) n log r := by
  have hmem : Command.push ∉ [Command.add, Command.commit] := by decide
  have hm (m' : String) (h : (.ok message : Except Failure String) = .ok m') : m' = message :=
    (Except.ok.inj h).symm
  -- each case puts the log of its own calls before that of the rest
  induction hpushes with
  | @accepted n o s s' push =>
    rw [handle, push_eq job message author] at push
    rcases invoke_log push with ⟨-, -, _, hfailure⟩ | ⟨reply, hran, hresult⟩
    · cases hfailure
    · split_ifs at hresult with hcode
      refine ⟨_, hran, ?_⟩
      cases n <;> exact ⟨rfl, by rw [if_pos hcode, if_pos rfl]; exact ⟨rfl, _, rfl, rfl⟩⟩
  | @refused o s s' failure push =>
    rw [handle] at push
    rcases push_log message author push with ⟨rfl, -⟩ | ⟨reply, hran, hcode, rfl⟩
    · exact ⟨[], .quiet rfl, obeys_nil⟩
    · refine ⟨_, hran, rfl, ?_⟩
      rw [if_neg hcode, if_neg (by simp)]
      exact ⟨rfl, rfl⟩
  | @unreset n o s s₁ s' failure failure' push reset =>
    obtain ⟨log, hran, hobeys⟩ := unreset_log message author push reset
    exact ⟨log, hran, hobeys n⟩
  | @failed n o s s₁ s₂ s' failure failure' push reset attempt =>
    obtain ⟨log, hran, hretry⟩ := reset_log message author push reset
    obtain ⟨log', hran', -, hobeys⟩ := attempt_log hm attempt
    exact ⟨_, hran.append hran', hretry _ _ _ (hobeys _ n)⟩
  | @present n o s s₁ s₂ s' failure appended push reset attempt =>
    obtain ⟨log, hran, hretry⟩ := reset_log message author push reset
    obtain ⟨log', hran', -, hnone⟩ := attempt_log hm attempt
    obtain rfl : log' = [] := hnone
    exact ⟨_, hran.append hran', hretry _ _ _ obeys_nil⟩
  | @again n o s s₁ s₂ s₃ s' failure appended m sha r push reset attempt rest ih =>
    obtain ⟨log, hran, hretry⟩ := reset_log message author push reset
    obtain ⟨log', hran', -, -, hlog'⟩ := attempt_log hm attempt
    obtain ⟨log'', hran'', hobeys⟩ := ih
    exact ⟨_, hran.append (hran'.append hran''), hretry _ _ _ (hlog'.obeys hmem hobeys)⟩

/-! A run -/

def Terms.ofRun (root : Path) (config : Config) (event : Event) (options : Options)
    (message : String) : Terms where
  path := (Path.relativeTo root config.changelog.path).text
  message := message
  author := ⟨config.commit.authorName, config.commit.authorEmail⟩
  remote := config.push.remote
  branch := event.targetBranch
  header := header? options.token

/-- The commands that a run may give, of which it gives the first ones. -/
def protocol (config : Config) (options : Options) : List Command :=
  [.add, .commit] ++
    if options.push then
      .push :: (List.replicate config.push.retries [.fetch, .reset, .add, .commit, .push]).flatten
    else []

theorem pushes_eq (n : Nat) :
    pushes n = .push :: (List.replicate n [.fetch, .reset, .add, .commit, .push]).flatten := by
  induction n with
  | zero => rfl
  | succ n ih =>
    rw [pushes, ih, List.replicate_succ, List.flatten_cons]
    rfl

theorem count_protocol (config : Config) (options : Options) :
    (protocol config options).count .push ≤ config.push.retries + 1 ∧
      (protocol config options).count .reset ≤ config.push.retries := by
  unfold protocol
  split_ifs
  · simp [List.count_flatten]
  · simp

theorem deliver_log {config : Config} {event : Event} {options : Options} {e : MergeNotes.Entry}
    (hdelivers : Delivers (handle root (root.join config.changelog.path)) config event options e
      h r h') :
    ∃ message log, (log ≠ [] → Render.message config.commit.message event = .ok message) ∧
      Ran (.ofRun root config event options message) h log h' ∧
      Obeys (.ofRun root config event options message) (protocol config options)
        config.push.retries log r := by
  -- where no message can be printed nothing is called, so any will do for the terms
  obtain ⟨message, hmessage⟩ : ∃ message, ∀ m,
      Render.message config.commit.message event = .ok m → m = message := by
    cases Render.message config.commit.message event with
    | ok message => exact ⟨message, fun m hm => (Except.ok.inj hm).symm⟩
    | error failure => exact ⟨"", by nofun⟩
  have hmem : Command.push ∉ [Command.add, Command.commit] := by decide
  refine ⟨message, ?_⟩
  cases hdelivers with
  | failed attempt =>
    obtain ⟨log, hran, hlog, hobeys⟩ := attempt_log hmessage attempt
    exact ⟨log, hlog, hran, hobeys _ _⟩
  | unchanged attempt ahead =>
    obtain ⟨log, hran, -, hnone⟩ := attempt_log hmessage attempt
    obtain rfl : log = [] := hnone
    rw [handle] at ahead
    cases ahead
    exact ⟨[], by nofun, hran, obeys_nil⟩
  | kept unpushed attempt =>
    obtain ⟨log, hran, hlog, -, hsucceeds⟩ := attempt_log hmessage attempt
    refine ⟨log, hlog, hran, ?_⟩
    rw [protocol, if_neg (by simp [unpushed]), ← List.append_nil log]
    exact hsucceeds.obeys hmem obeys_nil
  | pushed push attempt pushes =>
    obtain ⟨log, hran, hlog, rfl, hsucceeds⟩ := attempt_log hmessage attempt
    have hne : log ≠ [] := by
      rintro rfl
      cases hsucceeds.commands
    obtain ⟨log', hran', hobeys⟩ := pushes_log pushes
    refine ⟨log ++ log', fun _ => hlog hne, hran.append hran', ?_⟩
    rw [protocol, if_pos push, ← pushes_eq]
    exact hsucceeds.obeys hmem hobeys

theorem exists_ran_of_run (h : Host) (root : Path) (config : Config) (event : Event)
    (options : Options) (today : Date) :
    ∃ message log, Ran (.ofRun root config event options message) h log
      (h.run root config event options today).2 := by
  rcases hrun : h.run root config event options today with ⟨r, h'⟩
  rw [run] at hrun
  cases Update.runs_of_exec hrun with
  | failed | skipped => exact ⟨"", [], .quiet rfl⟩
  | delivered entry delivers =>
    obtain ⟨message, log, -, hran, -⟩ := deliver_log delivers
    exact ⟨message, log, hran⟩

/-- The calls that a run makes of the executable are the first ones of the protocol, all with the
same path, message, author, remote and branch, and only pushes and fetches with the token. A call
that fails is the last one and is what the run reports, unless it is a push that can be tried again;
a push that succeeds is the last one, and the run reports that it pushed. -/
theorem run_calls (h : Host) (root : Path) (config : Config) (event : Event) (options : Options)
    (today : Date) :
    let result := h.run root config event options today
    ∃ (message : String) (log : Log),
      let t := Terms.ofRun root config event options message
      (log ≠ [] → Render.message config.commit.message event = .ok message) ∧
      result.2.executable.calls = h.executable.calls ++ log.map (fun x => t.invocation x.1) ∧
      (∀ k (hk : k < log.length), log[k].2 = h.executable.replies.getD k {}) ∧
      log.map Prod.fst <+: protocol config options ∧
      (log.map Prod.fst).count .push ≤ config.push.retries + 1 ∧
      (log.map Prod.fst).count .reset ≤ config.push.retries ∧
      (options.push = false → ∀ x ∈ log, x.1 = .add ∨ x.1 = .commit) ∧
      ∀ before c reply after, log = before ++ (c, reply) :: after →
        (c ≠ .push → reply.code ≠ 0 → after = [] ∧ result.1 = .error (t.failure c reply)) ∧
        (c = .push → reply.code = 0 → after = [] ∧ ∃ o, result.1 = .ok o ∧ o.pushed = true) ∧
        (c = .push → reply.code ≠ 0 → (before.map Prod.fst).count .push = config.push.retries →
          after = [] ∧ result.1 = .error (t.failure c reply)) := by
  intro result
  obtain ⟨r, h', hrun⟩ : ∃ r h', result = (r, h') := ⟨_, _, (Prod.eta _).symm⟩
  obtain ⟨message, log, hmessage, hran, hobeys⟩ : ∃ message log,
      (log ≠ [] → Render.message config.commit.message event = .ok message) ∧
      Ran (.ofRun root config event options message) h log h' ∧
      Obeys (.ofRun root config event options message) (protocol config options)
        config.push.retries log r := by
    have hexec : (plan config event options today).exec
      (handle root (root.join config.changelog.path)) h = (r, h') := hrun
    cases Update.runs_of_exec hexec with
    | failed | skipped => exact ⟨"", [], by nofun, .quiet rfl, obeys_nil⟩
    | delivered entry delivers => exact deliver_log delivers
  have hinitial := hobeys.commands_prefix
  obtain ⟨hpushes, hresets⟩ := count_protocol config options
  rw [hrun]
  refine ⟨message, log, hmessage, hran.calls_eq, hran.reply_eq, hinitial, ?_, ?_, ?_, ?_⟩
  · exact Nat.le_trans (hinitial.sublist.count_le _) hpushes
  · exact Nat.le_trans (hinitial.sublist.count_le _) hresets
  · intro hpush x hx
    have hmem := hinitial.subset (List.mem_map_of_mem hx)
    rw [protocol, if_neg (by simp [hpush])] at hmem
    simpa using hmem
  · intro before c reply after hlog
    exact hobeys.spec hlog

end MergeNotes.Git.Host

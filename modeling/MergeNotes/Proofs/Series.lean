import MergeNotes.Proofs.Clone
import MergeNotes.Proofs.Untouched

namespace MergeNotes.Changelog

def withEntries (file : Option String) (entries : List Entry) : Option String :=
  if entries = [] then file
  else some (finished (file.getD "") ++ String.join (entries.map fun e => e.text ++ "\n"))

variable {file : Option String} {e : Entry}

theorem withEntries_eq (file : Option String) {entries : List Entry} (h : entries ≠ []) :
    withEntries file entries = some (extended (file.getD "") entries) := by
  rw [withEntries, if_neg h, ← extended_finished _ h,
    extended_of_isFinished (isFinished_finished _)]

theorem withEntries_append (file : Option String) (es es' : List Entry) :
    withEntries (withEntries file es) es' = withEntries file (es ++ es') := by
  by_cases hes' : es' = []
  · simp [hes', withEntries]
  by_cases hes : es = []
  · simp [hes, withEntries]
  rw [withEntries_eq _ hes', withEntries_eq _ hes, withEntries_eq _ (by simp [hes])]
  simp [extended]

theorem eq_some_of_endsWith (h : endsWith (lastLine? (file.getD "")) e = true) :
    file = some (file.getD "") := by
  cases file with
  | none => cases h
  | some content => rfl

theorem some_recorded (file : Option String) (e : Entry) :
    some (recorded (file.getD "") e) =
      withEntries file (if endsWith (lastLine? (file.getD "")) e then [] else [e]) := by
  split_ifs with h
  · rw [recorded_of_endsWith h]
    exact (eq_some_of_endsWith h).symm
  · rw [recorded_of_not_endsWith h, withEntries_eq _ (List.cons_ne_nil _ _)]
    rfl

theorem some_recorded_eq_iff :
    some (recorded (file.getD "") e) = file ↔ endsWith (lastLine? (file.getD "")) e = true := by
  constructor
  · intro h
    by_contra hend
    have hne := recorded_ne_iff.2 (Bool.eq_false_iff.2 hend)
    exact hne (congrArg (Option.getD · "") h)
  · intro h
    rw [recorded_of_endsWith h]
    exact (eq_some_of_endsWith h).symm

end MergeNotes.Changelog

namespace MergeNotes.Git.InMemory

open Update (Job Options Author Outcome Plan Delivers entryOf plan)
open Changelog (recorded endsWith lastLine? withEntries)
open Shared (Runner)

variable {g g' g'' : InMemory} {p : Path} {file : Option String}

structure IsClean (g : InMemory) (p : Path) (file : Option String) : Prop where
  holds : g.disk.Holds p (file.map String.toUTF8)
  snapshot : (lookup p g.snapshots).join = file

theorem IsClean.read (h : g.IsClean p file) : g.read p = file := by
  cases file with
  | some content => exact read_eq_some.2 h.holds
  | none =>
    cases hr : g.read p with
    | none => rfl
    | some content =>
      have hread := h.holds.toOption_read
      rw [read_eq_some.1 hr] at hread
      cases hread

theorem IsClean.isChanged (h : g.IsClean p file) : g.isChanged p = false := by
  simp [InMemory.isChanged, h.read, h.snapshot]

theorem Stands.isClean {content : String} (h : g.Stands p content) : g.IsClean p (some content) :=
  ⟨h.read, by rw [h.snapshot, Option.join_some]⟩

theorem IsClean.congr (h : g.IsClean p file) (hdisk : g'.disk = g.disk)
    (hsnapshots : g'.snapshots = g.snapshots) : g'.IsClean p file :=
  ⟨hdisk ▸ h.holds, hsnapshots ▸ h.snapshot⟩

theorem IsClean.isSome_commit? {job : Job} {message : Except Failure String} {author : Author}
    {attempt : Job.Attempt} (hg : g.IsClean p file) (hp : job.path = p)
    (h : (job.attempt message author).exec (handle p) g = (.ok attempt, g')) :
    attempt.commit?.isSome = !endsWith (lastLine? (file.getD "")) job.entry := by
  subst hp
  -- the recorded document differs from the committed one exactly if it lacked the entry
  have hdecides {added : Bool} {d : Disk}
      (record : Changelog.record g.disk job.path job.entry = (.ok added, d)) :
      InMemory.isChanged { g with disk := d } job.path =
        !endsWith (lastLine? (file.getD "")) job.entry := by
    obtain ⟨content, htext, hread, -⟩ := Changelog.record_eq_ok hg.holds record
    obtain rfl := Changelog.text?_map_toUTF8 htext
    have hread' : InMemory.read { g with disk := d } job.path =
        some (recorded (file.getD "") job.entry) := read_eq_some.2 hread
    rw [InMemory.isChanged, hread', hg.snapshot]
    simp [Changelog.some_recorded_eq_iff]
  cases attempted_of_exec h with
  | committed record changed => exact changed.symm.trans (hdecides record)
  | unchanged record same => exact same.symm.trans (hdecides record)

theorem length_commitsOf (job : Job) (author : Author) (attempt : Job.Attempt) :
    (commitsOf job author (.ok attempt)).length = if attempt.commit?.isSome then 1 else 0 := by
  obtain ⟨appended, _ | ⟨message, sha⟩⟩ := attempt <;> rfl

/-- An attempt on a clean document leaves it clean, with the entry at its end, and commits exactly
if it had to add it. -/
theorem IsClean.attempt {job : Job} {message : Except Failure String} {author : Author}
    {attempt : Job.Attempt} (hg : g.IsClean p file) (hp : job.path = p)
    (h : (job.attempt message author).exec (handle p) g = (.ok attempt, g')) :
    attempt.appended = !endsWith (lastLine? (file.getD "")) job.entry ∧
      g'.IsClean p (withEntries file (if attempt.appended then [job.entry] else [])) ∧
      g'.commits.length = g.commits.length + if attempt.appended then 1 else 0 := by
  obtain ⟨content, htext, hstands, happended⟩ := attempt_eq_ok hp hg.holds h
  obtain rfl := Changelog.text?_map_toUTF8 htext
  have hend : attempt.appended = !endsWith (lastLine? (file.getD "")) job.entry := by
    rw [Changelog.recorded_ne_iff] at happended
    cases hb : endsWith (lastLine? (file.getD "")) job.entry <;> simp_all
  refine ⟨hend, ?_, ?_⟩
  · have hclean := hstands.isClean
    rw [Changelog.some_recorded] at hclean
    cases hb : endsWith (lastLine? (file.getD "")) job.entry <;> simpa [hend, hb] using hclean
  · rw [(adds_attempt h).commits, List.length_append, length_commitsOf, hg.isSome_commit? hp h,
      hend]

theorem failingPushes_exec {α : Type} (p : Path) (plan : Plan α) (g : InMemory) :
    (plan.exec (handle p) g).2.failingPushes ≤ g.failingPushes := by
  refine Plan.exec_rel (R := fun g g' : InMemory => g'.failingPushes ≤ g.failingPushes)
    (fun _ => Nat.le_refl _) (fun _ _ _ h h' => Nat.le_trans h' h) ?_ plan g
  intro c g
  cases c with
  | push remote branch token =>
    rw [handle, InMemory.push]
    split
    · rename_i n hn
      simp [hn]
    · exact Nat.le_refl _
  | reset remote branch token =>
    obtain ⟨disk, snapshots, heq⟩ := reset_eq (Prod.eta (g.reset remote branch)).symm
    rw [handle, heq]
  | commit _ _ _ | lastLine | append _ | isChanged _ | ahead _ _ => exact Nat.le_refl _

theorem push_of_failingPushes {remote branch : String} {token : Option String}
    (h : g.failingPushes = 0) :
    g.push remote branch token =
      (.ok (), { g with pushes := g.pushes ++ [(remote, branch, token)] }) := by
  rw [InMemory.push, h]

theorem pushes_of_failingPushes {job : Job} {message : String} {author : Author} {n : Nat}
    {o o' : Outcome} (h : Job.Pushes (handle p) job message author n o g (.ok o') g')
    (hpushes : g.failingPushes = 0) :
    o' = { o with pushed := true } ∧ g'.disk = g.disk ∧ g'.snapshots = g.snapshots ∧
      g'.commits = g.commits := by
  have haccepted : handle p (.push job.remote job.branch job.token) g = _ :=
    push_of_failingPushes hpushes
  cases h with
  | accepted push =>
    rw [haccepted] at push
    cases push
    exact ⟨rfl, rfl, rfl, rfl⟩
  | present push | again push =>
    rw [haccepted] at push
    cases push

theorem IsClean.deliver {config : Config} {event : Event} {options : Options} {e : Entry}
    {o : Outcome} (hg : g.IsClean p file) (hp : config.changelog.path = p)
    (hpushes : g.failingPushes = 0)
    (h : Delivers (handle p) config event options e g (.ok o) g') :
    o.entry = some e.text ∧ o.appended = !endsWith (lastLine? (file.getD "")) e ∧
      g'.IsClean p (withEntries file (if o.appended then [e] else [])) ∧
      g'.commits.length = g.commits.length + if o.appended then 1 else 0 := by
  have hp : (Job.ofConfig config event options e).path = p := hp
  generalize hr : Except.ok o = r at h
  cases h with
  | failed attempt => cases hr
  | unchanged attempt ahead =>
    rw [handle] at ahead
    cases ahead
    cases hr
    exact ⟨rfl, hg.attempt hp attempt⟩
  | kept unpushed attempt =>
    cases hr
    exact ⟨rfl, hg.attempt hp attempt⟩
  | pushed push attempt pushes =>
    subst hr
    have hle := failingPushes_exec p (Update.firstAttempt config event options e) g
    rw [attempt, hpushes] at hle
    obtain ⟨rfl, hdisk, hsnapshots, hcommits⟩ :=
      pushes_of_failingPushes pushes (Nat.le_zero.1 hle)
    obtain ⟨happended, hclean, hlength⟩ := hg.attempt hp attempt
    exact ⟨rfl, happended, hclean.congr hdisk hsnapshots, hcommits ▸ hlength⟩

def added (runs : List (Runner p × Outcome)) : List Entry :=
  runs.filterMap fun (r, o) => if o.appended then r.due? else none

/-- Runs that all end well, each starting from what the one before left. -/
inductive Series (g : InMemory) : List (Runner p × Outcome) → InMemory → Prop
  | nil : Series g [] g
  | concat {g' g'' : InMemory} {runs : List (Runner p × Outcome)} {r : Runner p} {o : Outcome}
      (series : Series g runs g')
      (run : g'.run r.config r.event r.options r.today = (.ok o, g'')) :
      Series g (runs ++ [(r, o)]) g''

/-- A run on a clean document leaves it clean. It has added its entry exactly if it has one that the
document did not end with, and then there is one commit more. -/
theorem IsClean.run {r : Runner p} {o : Outcome} (hg : g.IsClean p file)
    (hpushes : g.failingPushes = 0)
    (hrun : g.run r.config r.event r.options r.today = (.ok o, g')) :
    o.entry = r.due?.map Entry.text ∧
      (o.appended = false ↔ ∀ e ∈ r.due?, endsWith (lastLine? (file.getD "")) e = true) ∧
      g'.IsClean p (withEntries file (added [(r, o)])) ∧
      g'.commits.length = g.commits.length + (added [(r, o)]).length := by
  rw [InMemory.run, r.path_eq] at hrun
  cases Update.runs_of_exec hrun with
  | skipped entry =>
    have hdue : r.due? = none := by rw [Runner.due?, entry]
    simp [hdue, added, Outcome.skipped, withEntries, hg]
  | @delivered _ e _ entry delivers =>
    have hdue : r.due? = some e := by rw [Runner.due?, entry]
    obtain ⟨hline, happended, hclean, hlength⟩ := hg.deliver r.path_eq hpushes delivers
    have hadded : added [(r, o)] = if o.appended then [e] else [] := by
      cases ho : o.appended <;> simp [added, ho, hdue]
    refine ⟨by rw [hline, hdue, Option.map_some], ?_, ?_, ?_⟩
    · simp [hdue, happended]
    · rwa [hadded]
    · rw [hlength, hadded]
      split_ifs <;> rfl

variable {runs before after : List (Runner p × Outcome)} {r : Runner p} {o : Outcome}

theorem added_append (runs runs' : List (Runner p × Outcome)) :
    added (runs ++ runs') = added runs ++ added runs' := by
  rw [added, List.filterMap_append]
  rfl

theorem Series.isClean (h : Series g runs g') (hg : g.IsClean p file)
    (hpushes : g.failingPushes = 0) :
    g'.IsClean p (withEntries file (added runs)) ∧ g'.failingPushes = 0 ∧
      g'.commits.length = g.commits.length + (added runs).length := by
  induction h with
  | nil => exact ⟨hg, hpushes, rfl⟩
  | @concat g' g'' runs r o series run ih =>
    obtain ⟨hclean, hpushes', hlength⟩ := ih
    obtain ⟨-, -, hclean', hlength'⟩ := hclean.run hpushes' run
    have hle := failingPushes_exec r.config.changelog.path
      (plan r.config r.event r.options r.today) g'
    rw [← InMemory.run, run, hpushes'] at hle
    refine ⟨?_, Nat.le_zero.1 hle, ?_⟩
    · rwa [added_append, ← Changelog.withEntries_append]
    · rw [hlength', hlength, added_append, List.length_append, Nat.add_assoc]

theorem Series.exists_run (h : Series g (before ++ (r, o) :: after) g') :
    ∃ g₁ g₂, Series g before g₁ ∧ g₁.run r.config r.event r.options r.today = (.ok o, g₂) := by
  generalize hruns : before ++ (r, o) :: after = runs at h
  induction h generalizing after with
  | nil => simp at hruns
  | @concat g' g'' runs r' o' series run ih =>
    rcases List.eq_nil_or_concat' after with rfl | ⟨after, last, rfl⟩
    · obtain ⟨rfl, hlast⟩ := List.append_inj' hruns rfl
      cases hlast
      exact ⟨g', g'', series, run⟩
    · rw [← List.cons_append, ← List.append_assoc] at hruns
      exact ih (List.append_inj' hruns rfl).1

/-- The document only grows. After any series of runs that end well it has no uncommitted changes
and is what it was at first with one line for each run that says it added one: its entry, in the
order of the runs. There is one commit for each line, and a run adds none exactly if it has no entry
or the document ended with it when it began. -/
theorem series_extends (h : Series g runs g') (hg : g.IsClean p file)
    (hpushes : g.failingPushes = 0) :
    g'.isChanged p = false ∧
      g'.disk.Holds p ((withEntries file (added runs)).map String.toUTF8) ∧
      g'.commits.length = g.commits.length + (added runs).length ∧
      ∀ before r o after, runs = before ++ (r, o) :: after →
        o.entry = r.due?.map Entry.text ∧
        (o.appended = false ↔ ∀ e ∈ r.due?,
          endsWith (lastLine? ((withEntries file (added before)).getD "")) e = true) := by
  obtain ⟨hclean, -, hlength⟩ := h.isClean hg hpushes
  refine ⟨hclean.isChanged, hclean.holds, hlength, ?_⟩
  rintro before r o after rfl
  obtain ⟨g₁, g₂, hbefore, hrun⟩ := h.exists_run
  obtain ⟨hclean₁, hpushes₁, -⟩ := hbefore.isClean hg hpushes
  obtain ⟨hentry, happended, -⟩ := hclean₁.run hpushes₁ hrun
  exact ⟨hentry, happended⟩

def carryOut (s : List (Runner p × Outcome) × InMemory) (r : Runner p) :
    Option (List (Runner p × Outcome) × InMemory) :=
  match s.2.run r.config r.event r.options r.today with
  | (.ok o, g') => some (s.1 ++ [(r, o)], g')
  | (.error _, _) => none

theorem series_of_carryOut {s : List (Runner p × Outcome) × InMemory} (runners : List (Runner p))
    (hs : Series g s.1 s.2) (h : runners.foldlM carryOut s = some (runs, g')) :
    Series g runs g' := by
  induction runners generalizing s with
  | nil =>
    cases h
    exact hs
  | cons r runners ih =>
    rw [List.foldlM_cons] at h
    obtain ⟨s', hs', h⟩ := Option.bind_eq_some_iff.1 h
    refine ih ?_ h
    unfold carryOut at hs'
    split at hs'
    · rename_i o g₁ hrun
      cases hs'
      exact hs.concat hrun
    · cases hs'

def note (description : String) (push : Bool) : Runner ⟨"CHANGELOG.md"⟩ where
  config := {}
  event := .ofDescription description "main" none
  options := { push }
  today := ⟨2024, 1, 1⟩
  path_eq := rfl

def notes : List (Runner ⟨"CHANGELOG.md"⟩) :=
  [note "One" false, note "One" true, note " " true, note "Two" true]

theorem series_extends_notes :
    ∃ (runs : List (Runner ⟨"CHANGELOG.md"⟩ × Outcome)) (g' : InMemory),
      Series (holding "# Notes" "# Notes") runs g' ∧
      runs.map (·.2.appended) = [true, false, false, true] ∧
      (added runs).map Entry.text = ["- One", "- Two"] ∧ g'.isChanged ⟨"CHANGELOG.md"⟩ = false ∧
      g'.disk.read ⟨"CHANGELOG.md"⟩ = .ok "# Notes\n- One\n- Two\n".toUTF8 ∧
      g'.commits.length = 2 := by
  have hclean : (holding "# Notes" "# Notes").IsClean ⟨"CHANGELOG.md"⟩ (some "# Notes") := by
    refine ⟨?_, by decide +kernel⟩
    show (holding "# Notes" "# Notes").disk.read ⟨"CHANGELOG.md"⟩ = .ok "# Notes".toUTF8
    decide +kernel
  have hnotes : (notes.foldlM carryOut ([], holding "# Notes" "# Notes")).map
      (fun s => (s.1.map (·.2.appended), (added s.1).map Entry.text)) =
        some ([true, false, false, true], ["- One", "- Two"]) := by decide +kernel
  obtain ⟨⟨runs, g'⟩, hruns, hnotes⟩ := Option.map_eq_some_iff.1 hnotes
  obtain ⟨happended, hadded⟩ := Prod.mk.inj hnotes
  have hseries : Series (holding "# Notes" "# Notes") runs g' :=
    series_of_carryOut notes .nil hruns
  obtain ⟨hchanged, hholds, hlength, -⟩ := series_extends hseries hclean rfl
  have htwo : (added runs).length = 2 := by rw [← List.length_map Entry.text, hadded]; rfl
  have htext : withEntries (some "# Notes") (added runs) = some "# Notes\n- One\n- Two\n" := by
    have hne : added runs ≠ [] := List.ne_nil_of_length_eq_add_one htwo
    have hlines : (added runs).map (fun e => e.text ++ "\n") = ["- One\n", "- Two\n"] := by
      have h := congrArg (List.map (· ++ "\n")) hadded
      rw [List.map_map] at h
      exact h.trans (by decide +kernel)
    rw [withEntries, if_neg hne, hlines]
    decide +kernel
  rw [htext] at hholds
  rw [htwo] at hlength
  exact ⟨runs, g', hseries, happended, hadded, hchanged, hholds, hlength⟩

end MergeNotes.Git.InMemory

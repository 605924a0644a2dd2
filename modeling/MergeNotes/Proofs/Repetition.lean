import MergeNotes.Proofs.Recording

namespace MergeNotes.Git.InMemory

open Update (Job Options Plan Author Outcome plan deliver conclude)
open Changelog (recorded)

variable {g g' : InMemory} {p : Path} {e : Entry} {content : String}

theorem attempt_of_stands {job : Job} (message : Except Failure String) (author : Author)
    (hp : job.path = p) (hg : g.Stands p content)
    (hend : Changelog.endsWith (Changelog.lastLine? content) job.entry = true) :
    (job.attempt message author).exec (handle p) g = (.ok ⟨false, none⟩, g) := by
  have hchanged : ¬g.isChanged p = true := by simp [hg.isChanged]
  rw [exec_attempt, Changelog.record_of_endsWith hg.read hend, hp]
  exact if_neg hchanged

def Idle (o : Outcome) : Prop := o.appended = false ∧ o.committed = false ∧ o.pushed = false

theorem deliver_of_stands {config : Config} {event : Event} {options : Options}
    (hg : g.Stands config.changelog.path content)
    (hend : Changelog.endsWith (Changelog.lastLine? content) e = true) :
    ∃ o, (deliver config event options e).exec (handle config.changelog.path) g = (.ok o, g) ∧
      Idle o := by
  have hp : (Job.ofConfig config event options e).path = config.changelog.path := rfl
  have hattempt := attempt_of_stands (Render.message config.commit.message event)
    (Update.authorOf config.commit) hp hg hend
  rw [Update.deliver_eq, Plan.exec_bind, Update.firstAttempt, hattempt]
  simp only [conclude, Plan.exec_ask, handle, Plan.exec]
  exact ⟨_, rfl, rfl, rfl, rfl⟩

/-- A run after one that got as far as its pushes, or had nothing to record, changes nothing. -/
theorem run_again {config : Config} {event : Event} {options : Options} {today : Date}
    {file : Option ByteArray} {r : Except Failure Outcome}
    (hfile : g.disk.Holds config.changelog.path file)
    (hrun : g.run config event options today = (r, g')) (hr : isSettled r) :
    (∃ o, g'.run config event options today = (.ok o, g') ∧ Idle o) ∧
      ∀ n, (fun s : InMemory => (s.run config event options today).2)^[n] g' = g' := by
  suffices h : ∃ o, g'.run config event options today = (.ok o, g') ∧ Idle o by
    obtain ⟨o, ho, hidle⟩ := h
    have hfixed : (g'.run config event options today).2 = g' := by rw [ho]
    exact ⟨⟨o, ho, hidle⟩, fun n => Function.iterate_fixed hfixed n⟩
  rw [InMemory.run] at hrun
  cases Update.runs_of_exec hrun with
  | @failed err entry =>
    cases err with
    | git command details => exact absurd rfl (Update.entryOf_ne_git entry)
    | _ => cases hr
  | skipped entry => exact ⟨_, hrun, rfl, rfl, rfl⟩
  | delivered entry delivers =>
    obtain ⟨-, content, -, -, hdocumented⟩ := documented_deliver hfile delivers hr
    rw [InMemory.run, plan, entry]
    exact deliver_of_stands hdocumented.stands (Changelog.endsWith_recorded _ _)

/-- Nothing is pushed again after a rejection that was the last. -/
theorem run_again_contested :
    ∃ (r : Except Failure Outcome) (g' : InMemory),
      contested.run {} (.ofDescription "Ours" "main" none) {} ⟨2024, 1, 1⟩ = (r, g') ∧
      r.toOption = none ∧ isSettled r ∧
      ∃ o, g'.run {} (.ofDescription "Ours" "main" none) {} ⟨2024, 1, 1⟩ = (.ok o, g') ∧
        Idle o := by
  have hfile : contested.disk.Holds ⟨"CHANGELOG.md"⟩ (some "# Notes\n".toUTF8) := by
    show contested.disk.read ⟨"CHANGELOG.md"⟩ = .ok "# Notes\n".toUTF8
    decide +kernel
  have herror : (contested.run {} (.ofDescription "Ours" "main" none) {} ⟨2024, 1, 1⟩).1.toOption =
      none := by decide +kernel
  have hr : isSettled
      (contested.run {} (.ofDescription "Ours" "main" none) {} ⟨2024, 1, 1⟩).1 := by
    decide +kernel
  obtain ⟨r, g', hrun⟩ : ∃ r g', contested.run {} (.ofDescription "Ours" "main" none) {}
      ⟨2024, 1, 1⟩ = (r, g') := ⟨_, _, (Prod.eta _).symm⟩
  rw [hrun] at herror hr
  exact ⟨r, g', hrun, herror, hr, (run_again hfile hrun hr).1⟩

end MergeNotes.Git.InMemory

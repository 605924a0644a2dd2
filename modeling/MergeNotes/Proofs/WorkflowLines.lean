import MergeNotes.Proofs.DefaultTemplates
import MergeNotes.Proofs.WorkflowOutput
import MergeNotes.Workflow

namespace MergeNotes

namespace Chars

variable {l : List Char} {ls : List (List Char)}

def unlines (ls : List (List Char)) : List Char := ls.flatMap (· ++ ['\n'])

theorem newline_notMem_of_mem_delimited {cs : List Char} (hl : l ∈ delimited cs) : '\n' ∉ l := by
  induction cs generalizing l with
  | nil => cases hl
  | cons c cs ih =>
    rw [delimited] at hl
    split_ifs at hl with hc
    · rcases List.mem_cons.1 hl with rfl | hl
      · exact List.not_mem_nil
      · exact ih hl
    · split at hl
      · rw [List.mem_singleton.1 hl, List.mem_singleton]
        exact Ne.symm hc
      · rename_i m ms hms
        rcases List.mem_cons.1 hl with rfl | hl
        · rw [List.mem_cons, not_or]
          exact ⟨Ne.symm hc, ih (hms ▸ List.mem_cons_self)⟩
        · exact ih (hms ▸ List.mem_cons_of_mem m hl)

theorem delimited_unlines (ls : List (List Char)) :
    delimited (unlines ls) = ls.flatMap fun l => delimited (l ++ ['\n']) := by
  induction ls with
  | nil => rfl
  | cons l ls ih =>
    rw [List.flatMap_cons, ← ih, unlines, List.flatMap_cons,
      delimited_append (isFinished_append_newline l), unlines]

/-- Lines are found in their text again exactly if none of them goes over a line break. -/
theorem delimited_unlines_iff : delimited (unlines ls) = ls ↔ ∀ l ∈ ls, '\n' ∉ l := by
  refine ⟨fun h l hl => newline_notMem_of_mem_delimited (h.symm ▸ hl), fun h => ?_⟩
  have hsingle : ∀ l ∈ ls, delimited (l ++ ['\n']) = [l] := fun l hl => delimited_newline (h l hl)
  rw [delimited_unlines, List.flatMap_congr hsingle, List.flatMap_singleton']

end Chars

namespace Text

def unlines (ls : List String) : String := String.join (ls.map (· ++ "\n"))

theorem toList_unlines (ls : List String) :
    (unlines ls).toList = Chars.unlines (ls.map String.toList) := by
  simp [unlines, Chars.unlines, List.flatMap_map]

theorem delimited_unlines_iff {ls : List String} :
    delimited (unlines ls) = ls ↔ ∀ l ∈ ls, '\n' ∉ l.toList := by
  have hlists : delimited (unlines ls) = ls ↔
      Chars.delimited (Chars.unlines (ls.map String.toList)) = ls.map String.toList := by
    rw [delimited, toList_unlines]
    constructor
    · intro h
      simpa [Function.comp_def] using congrArg (List.map String.toList) h
    · intro h
      simp [h, Function.comp_def]
  rw [hlists, Chars.delimited_unlines_iff, List.forall_mem_map]

end Text

namespace Template

variable {hole : String} {known : List (String × String)} {cs : List Char} {s : Scopes} {p : Part}
  {ps : List Part} {o : List (Option Char)}

/-- What is printed by parts that are texts and values of names, with a hole for each value of one
of the names; other parts have no outline. -/
def Part.outline? (hole : String) (known : List (String × String)) :
    Part → Option (List (Option Char))
  | .text cs => some (cs.map some)
  | .output (.reference name) =>
    if name = hole then some [none] else (known.lookup name).map (·.toList.map some)
  | _ => none

def outline? (hole : String) (known : List (String × String)) :
    List Part → Option (List (Option Char))
  | [] => some []
  | p :: ps => do return (← p.outline? hole known) ++ (← outline? hole known ps)

def filled (cs : List Char) (o : List (Option Char)) : List Char :=
  o.flatMap fun c => c.elim cs ([·])

theorem filled_append (cs : List Char) (o o' : List (Option Char)) :
    filled cs (o ++ o') = filled cs o ++ filled cs o' := List.flatMap_append

@[simp] theorem filled_map_some (cs ds : List Char) : filled cs (ds.map some) = ds := by
  simp [filled, List.flatMap_map]

theorem print_text (cs : List Char) : (Value.text cs).print = .ok cs := rfl

section

variable (hhole : s.lookup hole = .text cs)
  (hknown : ∀ name text, known.lookup name = some text → s.lookup name = ofText text)

include hhole hknown

theorem run_of_outline (h : p.outline? hole known = some o) : p.run s = .ok (filled cs o, s) := by
  unfold Part.outline? at h
  split at h
  · cases h
    rw [filled_map_some, run_text]
  · rename_i name
    have hname := eval_reference name s
    split_ifs at h with heq
    · cases h
      subst heq
      rw [hhole] at hname
      rw [run_output hname (print_text cs)]
      simp [filled]
    · obtain ⟨text, htext, rfl⟩ := Option.map_eq_some_iff.1 h
      rw [hknown name text htext] at hname
      rw [filled_map_some, run_output hname (print_text text.toList)]
  · cases h

/-- The text is put in as it is: what stands in it is not looked at. -/
theorem runAll_of_outline (h : outline? hole known ps = some o) :
    runAll s ps = .ok (filled cs o, s) := by
  induction ps generalizing o with
  | nil =>
    cases h
    exact runAll_nil s
  | cons p ps ih =>
    obtain ⟨first, hfirst, h⟩ := Option.bind_eq_some_iff.1 h
    obtain ⟨rest, hrest, h⟩ := Option.bind_eq_some_iff.1 h
    cases h
    rw [filled_append]
    exact runAll_cons (run_of_outline hhole hknown hfirst) (ih hrest)

end

end Template

namespace Workflow

open Template (filled filled_append filled_map_some)

def runnerLine : String := "    runs-on: " ++ slot "runs_on"

/-- A line of the template without the marks of raw blocks, and with the version filled in. -/
def plain (line : String) : List Char :=
  Chars.replaceAll (slot "version").toList version.toList <|
    Chars.replaceAll "{% endraw %}".toList [] <|
      Chars.replaceAll "{% raw %}".toList [] line.toList

example : plain ("  group: changelog-" ++ raw targetBranch) =
    "  group: changelog-${{ github.event.pull_request.base.ref }}".toList := by
  decide +kernel

def lineFor (label line : String) : String :=
  if line = runnerLine then "    runs-on: " ++ label else String.ofList (plain line)

def linesFor (label : String) : List String := templateLines.map (lineFor label)

def lineOutline (line : String) : List (Option Char) :=
  if line = runnerLine then "    runs-on: ".toList.map some ++ [none] else (plain line).map some

def outline : List (Option Char) :=
  templateLines.flatMap fun line => lineOutline line ++ [some '\n']

theorem filled_lineOutline (label line : String) :
    filled label.toList (lineOutline line) = (lineFor label line).toList := by
  unfold lineOutline lineFor
  split_ifs
  · rw [filled_append, filled_map_some, String.toList_append]
    simp [filled]
  · rw [filled_map_some, String.toList_ofList]

theorem filled_outline (label : String) :
    filled label.toList outline = (Text.unlines (linesFor label)).toList := by
  rw [Text.toList_unlines, Chars.unlines, linesFor, List.map_map, List.flatMap_map, outline,
    filled, List.flatMap_assoc]
  refine List.flatMap_congr fun line _ => ?_
  exact (filled_append label.toList (lineOutline line) [some '\n']).trans
    (congrArg (· ++ ['\n']) (filled_lineOutline label line))

/-- The template is made of texts and values of names, line by line. -/
theorem exists_parse_templateText : ∃ t, Template.parse templateText = .ok t ∧
    Template.outline? "runs_on" [("version", version)] t.parts = some outline := by
  -- evaluated on the characters of the lines, since joining them as strings takes too long
  have hevaluated :
      (Template.Parser.parse (Template.Token.scan
          (Chars.unlines (templateLines.map String.toList)))).toOption.bind
        (Template.outline? "runs_on" [("version", version)]) = some outline := by
    decide +kernel
  rw [← Text.toList_unlines] at hevaluated
  obtain ⟨parts, hparts, houtline⟩ := Option.bind_eq_some_iff.1 hevaluated
  exact ⟨⟨parts⟩, bind_eq_ok.2 ⟨parts, toOption_eq_some_iff.1 hparts, rfl⟩, houtline⟩

theorem content_eq (label : String) : content label = .ok (Text.unlines (linesFor label)) := by
  obtain ⟨t, hparse, houtline⟩ := exists_parse_templateText
  have hknown : ∀ name text, [("version", version)].lookup name = some text →
      Template.Scopes.lookup ⟨[], bindings label⟩ name = Template.ofText text := by
    intro name text h
    by_cases hname : name = "version"
    · subst hname
      obtain rfl : version = text := Option.some.inj h
      rfl
    · simp [List.lookup_cons, beq_false_of_ne hname] at h
  have hlabel : Template.Scopes.lookup ⟨[], bindings label⟩ "runs_on" = .text label.toList := rfl
  have hrun := Template.runAll_of_outline hlabel hknown houtline
  rw [content, hparse]
  refine (Template.render_of_runAll hrun).trans ?_
  rw [filled_outline, String.ofList_toList]

theorem file_eq {label : String} (h : Text.isBlank label = false) :
    file label = .ok ⟨path, Text.unlines (linesFor (Text.trim label))⟩ := by
  rw [file, if_neg (by simp [h]), content_eq]

theorem newline_notMem_linesFor_iff {label : String} :
    (∀ line ∈ linesFor label, '\n' ∉ line.toList) ↔ '\n' ∉ label.toList := by
  have hrunner : runnerLine ∈ templateLines := by decide +kernel
  have hplain : ∀ line ∈ templateLines, '\n' ∉ plain line := by decide +kernel
  have hstart : '\n' ∉ "    runs-on: ".toList := by decide
  rw [linesFor, List.forall_mem_map]
  -- of all lines only that of the runner holds the label
  constructor
  · intro h
    have hline := h runnerLine hrunner
    rw [lineFor, if_pos rfl, String.toList_append, List.mem_append, not_or] at hline
    exact hline.2
  · intro h line hline
    unfold lineFor
    split_ifs
    · rw [String.toList_append, List.mem_append, not_or]
      exact ⟨hstart, h⟩
    · rw [String.toList_ofList]
      exact hplain line hline

/-- A workflow has the lines of the template, one of which ends in the label, whatever else there is
in the label, exactly if there is no line break in it that is not at its ends. -/
theorem file_delimited_iff {label : String} (h : Text.isBlank label = false) :
    templateLines.count runnerLine = 1 ∧
      ∃ f, file label = .ok f ∧ f.path = path ∧
        f.content = Text.unlines (linesFor (Text.trim label)) ∧
        (Text.delimited f.content = linesFor (Text.trim label) ↔
          '\n' ∉ (Text.trim label).toList) :=
  ⟨by decide +kernel, _, file_eq h, rfl, rfl,
    Text.delimited_unlines_iff.trans newline_notMem_linesFor_iff⟩

/-- A label that looks like a template or a comment, with a line break at its end. -/
def bracedLabel : String := "\t${{ matrix.os }}{% raw %} # [x]: y\n"

theorem file_delimited_iff_braces :
    Text.isBlank bracedLabel = false ∧
      ∃ f, file bracedLabel = .ok f ∧
        Text.delimited f.content =
          linesFor "${{ matrix.os }}{% raw %} # [x]: y" := by
  have h : Text.isBlank bracedLabel = false := by decide
  have htrim : Text.trim bracedLabel =
      "${{ matrix.os }}{% raw %} # [x]: y" := by decide
  obtain ⟨-, f, hf, -, -, hiff⟩ := file_delimited_iff h
  rw [htrim] at hiff
  exact ⟨h, f, hf, hiff.2 (by decide)⟩

/-- A line break in a label begins a line of the job, which can say anything. -/
theorem file_delimited_job :
    ∃ f, file "ubuntu-latest\n    environment: release" = .ok f ∧
      Text.delimited f.content ≠ linesFor "ubuntu-latest\n    environment: release" ∧
      "    environment: release" ∈ Text.delimited f.content := by
  have htrim : Text.trim "ubuntu-latest\n    environment: release" =
      "ubuntu-latest\n    environment: release" := by decide
  refine ⟨_, file_eq (by decide), ?_⟩
  rw [htrim]
  constructor
  · rw [ne_eq, Text.delimited_unlines_iff, newline_notMem_linesFor_iff]
    decide
  · rw [Text.delimited, Text.toList_unlines, Chars.delimited_unlines]
    decide +kernel

end Workflow
end MergeNotes

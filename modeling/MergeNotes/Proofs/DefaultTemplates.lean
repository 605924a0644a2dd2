import MergeNotes.Config
import MergeNotes.Proofs.Chars
import MergeNotes.Proofs.Lines
import MergeNotes.Proofs.Skipped

namespace MergeNotes

namespace Chars

variable {w cs : List Char}

theorem unwords_concat {ws : List (List Char)} (hne : ws ≠ []) (w : List Char) :
    unwords (ws ++ [w]) = unwords ws ++ ' ' :: w := by
  induction ws with
  | nil => exact absurd rfl hne
  | cons v ws ih =>
    cases ws with
    | nil => simp [unwords]
    | cons u us =>
      rw [List.cons_append, List.cons_append, unwords_cons_cons, ← List.cons_append,
        ih (List.cons_ne_nil u us), unwords_cons_cons, List.append_assoc, List.cons_append]

theorem unwords_words_cons (hw : IsWord w) (hne : words cs ≠ []) :
    unwords (words (w ++ ' ' :: cs)) = w ++ ' ' :: unwords (words cs) := by
  obtain ⟨v, vs, hvs⟩ := List.exists_cons_of_ne_nil hne
  rw [words_append (by decide), words_of_isWord hw, hvs, List.singleton_append, unwords_cons_cons]

theorem unwords_words_concat (hw : IsWord w) (hne : words cs ≠ []) :
    unwords (words (cs ++ ' ' :: w)) = unwords (words cs) ++ ' ' :: w := by
  rw [words_append (by decide), words_of_isWord hw, unwords_concat hne]

theorem trim_eq_self (hfirst : ∀ c ∈ cs.head?, isBlank c = false)
    (hlast : ∀ c ∈ cs.getLast?, isBlank c = false) : trim cs = cs := by
  cases cs using List.reverseRecOn with
  | nil => rfl
  | append_singleton cs d =>
    have hd : isBlank d = false := hlast d (by simp)
    have hstart : trimStartBy isBlank (cs ++ [d]) = cs ++ [d] := by
      cases cs with
      | nil => exact trimStartBy_cons hd []
      | cons c cs => exact trimStartBy_cons (hfirst c (by simp)) (cs ++ [d])
    rw [trim, trimBy, hstart, trimEndBy_concat hd]

theorem isWord_toDigits (n : Nat) : IsWord (Nat.toDigits 10 n) := by
  refine ⟨Nat.toDigits_ne_nil, fun c hc => ?_⟩
  have hdigit := Nat.isDigit_of_mem_toDigits (by decide) (by decide) hc
  have hn : 48 ≤ c.toNat ∧ c.toNat ≤ 57 := Char.isDigit_iff_toNat.1 hdigit
  simp [isBlank]
  omega

end Chars

theorem Entry.exists_ofText? {s : String} (h : ∃ c ∈ s.toList, Chars.isBlank c = false) :
    ∃ e, ofText? s = some e ∧ e.line = Chars.unwords (Chars.words s.toList) :=
  ⟨_, dif_neg (Chars.words_ne_nil_iff.2 h), rfl⟩

namespace Template

variable {s s' s'' : Scopes} {e : Expr} {v : Value} {p : Part} {ps : List Part} {cs ds : List Char}

theorem eval_reference (name : String) (s : Scopes) :
    (Expr.reference name).eval s = .ok (s.lookup name) := by rw [Expr.eval]

theorem run_text (cs : List Char) (s : Scopes) : (Part.text cs).run s = .ok (cs, s) := rfl

theorem run_output (he : e.eval s = .ok v) (hv : v.print = .ok cs) :
    (Part.output e).run s = .ok (cs, s) := by
  rw [Part.run, he]
  exact congrArg (fun printed => printed.bind fun cs => Except.ok (cs, s)) hv

theorem run_branch {b : Bool} (whenTrue otherwise : List Part) (he : e.eval s = .ok v)
    (hv : v.truth = .ok b) :
    (Part.branch e whenTrue otherwise).run s =
      if b then runAll s whenTrue else runAll s otherwise := by
  rw [Part.run, he]
  exact congrArg (fun truth => truth.bind fun b : Bool =>
    if b then runAll s whenTrue else runAll s otherwise) hv

theorem runAll_nil (s : Scopes) : runAll s [] = .ok ([], s) := by rw [runAll]

theorem runAll_cons (hp : p.run s = .ok (cs, s')) (hps : runAll s' ps = .ok (ds, s'')) :
    runAll s (p :: ps) = .ok (cs ++ ds, s'') := by
  have hrun : runAll s (p :: ps) =
      (runAll s' ps).bind fun rest => Except.ok (cs ++ rest.1, rest.2) := by
    rw [runAll, hp]
    rfl
  rw [hrun, hps]
  rfl

theorem render_of_runAll {t : Template} {bindings : List (String × Value)}
    (h : runAll ⟨[], bindings⟩ t.parts = .ok (cs, s)) :
    t.render bindings = .ok (String.ofList cs) := by
  rw [render, h]
  rfl

theorem truth_ofNumber (n : UInt64) : (ofNumber n).truth = .ok (n ≠ 0) := by
  have hn : n.toNat = 0 ↔ n = 0 := UInt64.toNat_inj (b := 0)
  simp [ofNumber, Value.truth, Value.defined, Value.isTrue, Except.map, hn]

theorem print_ofNumber (n : UInt64) : (ofNumber n).print = .ok (toString n).toList := rfl

end Template

namespace Render

open Template (Part Scopes runAll)

/-- The mention of a pull request; there is none without a number or for the number zero. -/
def mention (before after : String) (number : Option UInt64) : String :=
  match number with
  | some n => if n = 0 then "" else before ++ toString n ++ after
  | none => ""

def mentionPart (before : String) (after : List Part) : Part :=
  .branch (.reference "number") (.text before.toList :: .output (.reference "number") :: after) []

theorem parse_entryDefault : Template.parse ({} : Config.Entry).template = .ok
    ⟨[.text "- ".toList, .output (.reference "text"), mentionPart " (#" [.text ")".toList]]⟩ := by
  with_unfolding_all rfl

theorem parse_messageDefault : Template.parse ({} : Config.Commit).message = .ok
    ⟨[.text "Update changelog".toList, mentionPart " for #" []]⟩ := by
  with_unfolding_all rfl

theorem run_mentionPart {s : Scopes} {number : Option UInt64} {before after : String}
    {rest : List Part} (hs : s.lookup "number" = Template.ofOption Template.ofNumber number)
    (hrest : runAll s rest = .ok (after.toList, s)) :
    (mentionPart before rest).run s = .ok ((mention before after number).toList, s) := by
  have hnumber := Template.eval_reference "number" s
  rw [hs] at hnumber
  cases number with
  | none => exact Template.run_branch _ _ hnumber rfl
  | some n =>
    rw [mentionPart, Template.run_branch _ _ hnumber (Template.truth_ofNumber n)]
    -- the number zero is false, as a missing one is
    by_cases hn : n = 0
    · subst hn
      rfl
    · have hprinted := Template.run_output hnumber (Template.print_ofNumber n)
      have hbody := Template.runAll_cons (Template.run_text before.toList s)
        (Template.runAll_cons hprinted hrest)
      simpa [mention, hn] using hbody

/-- The default template of entries puts a text behind a dash and the mention behind the text. -/
theorem render_entryDefault (text : String) (event : Event) (date : Date) :
    ∃ t, entryTemplate ({} : Config.Entry).template = .ok t ∧
      t.render (entryBindings text event date) =
        .ok ("- " ++ text ++ mention " (#" ")" event.number) := by
  refine ⟨_, entryTemplate_eq_ok.2 parse_entryDefault, ?_⟩
  let s : Scopes := ⟨[], entryBindings text event date⟩
  have htext : (Part.output (.reference "text")).run s = .ok (text.toList, s) :=
    Template.run_output (Template.eval_reference "text" s) rfl
  have hmention : (mentionPart " (#" [.text ")".toList]).run s =
      .ok ((mention " (#" ")" event.number).toList, s) :=
    run_mentionPart rfl (Template.runAll_cons (Template.run_text _ s) (Template.runAll_nil s))
  have hall := Template.runAll_cons (Template.run_text "- ".toList s)
    (Template.runAll_cons htext (Template.runAll_cons hmention (Template.runAll_nil s)))
  rw [Template.render_of_runAll hall]
  simp only [String.ofList_append, String.ofList_toList, String.ofList_nil, String.append_empty,
    String.append_assoc]

theorem render_messageDefault (event : Event) :
    ∃ t, Template.parse ({} : Config.Commit).message = .ok t ∧
      t.render (messageBindings event) =
        .ok ("Update changelog" ++ mention " for #" "" event.number) := by
  refine ⟨_, parse_messageDefault, ?_⟩
  let s : Scopes := ⟨[], messageBindings event⟩
  have hmention : (mentionPart " for #" []).run s =
      .ok ((mention " for #" "" event.number).toList, s) :=
    run_mentionPart rfl (Template.runAll_nil s)
  have hall := Template.runAll_cons (Template.run_text "Update changelog".toList s)
    (Template.runAll_cons hmention (Template.runAll_nil s))
  rw [Template.render_of_runAll hall]
  simp only [String.ofList_append, String.ofList_toList, String.ofList_nil, String.append_empty]

theorem mention_eq (before after : String) (number : Option UInt64) :
    mention before after number = "" ∨
      ∃ n, mention before after number = before ++ Nat.repr n ++ after := by
  cases number with
  | none => exact .inl rfl
  | some n =>
    by_cases hn : n = 0
    · exact .inl (if_pos hn)
    · exact .inr ⟨n.toNat, if_neg hn⟩

theorem isWord_parenthesized (n : Nat) :
    Chars.IsWord ("(#".toList ++ Nat.toDigits 10 n ++ ")".toList) := by
  refine ⟨by simp, fun c hc => ?_⟩
  rw [List.mem_append, List.mem_append] at hc
  have hstart : ∀ c ∈ "(#".toList, Chars.isBlank c = false :=
    List.forall_mem_cons.2 ⟨by decide, List.forall_mem_singleton.2 (by decide)⟩
  have hend : ∀ c ∈ ")".toList, Chars.isBlank c = false :=
    List.forall_mem_singleton.2 (by decide)
  exact hc.elim (·.elim (hstart c) ((Chars.isWord_toDigits n).2 c)) (hend c)

/-- The blanks of a text do not matter in its entry, and all other characters stay as they are. -/
theorem unwords_words_entryDefault {cs : List Char} (hcs : Chars.words cs ≠ [])
    (number : Option UInt64) :
    Chars.unwords (Chars.words ("- ".toList ++ cs ++ (mention " (#" ")" number).toList)) =
      "- ".toList ++ Chars.unwords (Chars.words cs) ++ (mention " (#" ")" number).toList := by
  have hstart : Chars.unwords (Chars.words ("- ".toList ++ cs)) =
      "- ".toList ++ Chars.unwords (Chars.words cs) :=
    Chars.unwords_words_cons (w := ['-'])
      ⟨by decide, List.forall_mem_singleton.2 (by decide)⟩ hcs
  obtain hnone | ⟨n, hn⟩ := mention_eq " (#" ")" number
  · rw [hnone, String.toList_empty, List.append_nil, List.append_nil, hstart]
  · have hword : (" (#" ++ Nat.repr n ++ ")").toList =
        ' ' :: ("(#".toList ++ Nat.toDigits 10 n ++ ")".toList) := by
      rw [String.toList_append, String.toList_append, Nat.toList_repr]
      rfl
    have hne : Chars.words ("- ".toList ++ cs) ≠ [] := by
      intro hnil
      rw [hnil] at hstart
      cases hstart
    rw [hn, hword, Chars.unwords_words_concat (isWord_parenthesized n) hne, hstart]

theorem trim_messageDefault (number : Option UInt64) :
    Text.trim ("Update changelog" ++ mention " for #" "" number) =
      "Update changelog" ++ mention " for #" "" number := by
  have htrim : Chars.trim ("Update changelog" ++ mention " for #" "" number).toList =
      ("Update changelog" ++ mention " for #" "" number).toList := by
    refine Chars.trim_eq_self (fun c hc => ?_) fun c hc => ?_
    · rw [String.toList_append, List.head?_append_of_ne_nil _ (by decide)] at hc
      cases hc
      decide
    · obtain hnone | ⟨n, hn⟩ := mention_eq " for #" "" number
      · rw [hnone, String.append_empty] at hc
        cases hc
        decide
      · rw [hn, String.append_empty, String.toList_append, String.toList_append, Nat.toList_repr,
          ← List.append_assoc, List.getLast?_append_of_ne_nil _ Nat.toDigits_ne_nil] at hc
        exact (Chars.isWord_toDigits n).2 c (List.mem_of_getLast? hc)
  rw [Text.trim, htrim, String.ofList_toList]

/-- What the default templates print of an event is fixed but for its number: the words of a text
behind a dash, whatever characters they are of, and the message of the commit. -/
theorem print_defaults (event : Event) (date : Date) :
    (∀ text : String, (∃ c ∈ text.toList, Chars.isBlank c = false) →
      ∃ t e, entryTemplate ({} : Config.Entry).template = .ok t ∧
        entry t text event date = .ok (some e) ∧
        e.text = "- " ++ String.ofList (Chars.unwords (Chars.words text.toList)) ++
          mention " (#" ")" event.number) ∧
      message ({} : Config.Commit).message event =
        .ok ("Update changelog" ++ mention " for #" "" event.number) := by
  refine ⟨fun text htext => ?_, ?_⟩
  · obtain ⟨t, ht, hprinted⟩ := render_entryDefault text event date
    have hwords := unwords_words_entryDefault (Chars.words_ne_nil_iff.2 htext) event.number
    rw [← String.toList_append, ← String.toList_append] at hwords
    have hdash : '-' ∈ ("- " ++ text ++ mention " (#" ")" event.number).toList := by simp
    obtain ⟨e, he, hline⟩ := Entry.exists_ofText? ⟨'-', hdash, by decide⟩
    refine ⟨t, e, ht, entry_eq_ok.2 ⟨_, hprinted, he⟩, ?_⟩
    rw [Entry.text, hline, hwords]
    simp only [String.ofList_append, String.ofList_toList]
  · obtain ⟨t, ht, hprinted⟩ := render_messageDefault event
    have htrim := trim_messageDefault event.number
    have hne : ("Update changelog" ++ mention " for #" "" event.number).isEmpty = false := by simp
    refine mapError_eq_ok.2 (bind_eq_ok.2 ⟨t, ht, bind_eq_ok.2 ⟨_, hprinted, ?_⟩⟩)
    simp only [htrim, hne]
    rfl

/-- A text that looks like a template is a text, and a number may take all 64 bits. -/
theorem print_defaults_braces :
    (∃ c ∈ "{{ title }}\n{% if %} ".toList, Chars.isBlank c = false) ∧
      ∃ t e, entryTemplate ({} : Config.Entry).template = .ok t ∧
        entry t "{{ title }}\n{% if %} "
          (.ofDescription "" "main" (some 18446744073709551615)) ⟨2024, 5, 1⟩ = .ok (some e) ∧
        e.text = "- {{ title }} {% if %} (#18446744073709551615)" := by
  have h : ∃ c ∈ "{{ title }}\n{% if %} ".toList, Chars.isBlank c = false :=
    ⟨'%', by decide, by decide⟩
  obtain ⟨t, e, ht, he, htext⟩ :=
    (print_defaults (.ofDescription "" "main" (some 18446744073709551615)) ⟨2024, 5, 1⟩).1 _ h
  exact ⟨h, t, e, ht, he, htext.trans (by decide +kernel)⟩

end Render
end MergeNotes

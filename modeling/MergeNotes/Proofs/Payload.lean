import MergeNotes.Load
import MergeNotes.Proofs.Chars
import MergeNotes.Proofs.JsonWriting
import MergeNotes.Proofs.Keyed

namespace MergeNotes.Payload

structure Content where
  action : Option String := none
  number : Option UInt64 := none
  pullNumber : Option UInt64 := none
  title : Option String := none
  body : Option String := none
  merged : Option Bool := none
  base : String

def IsNatural (n : UInt64) (v : Json) : Prop := v = .number ⟨false, n.toNat, 0⟩ true

def IsFlag (b : Bool) (v : Json) : Prop := v = .bool b

inductive Holds {α : Type} (Is : α → Json → Prop) : Option α → Json → Prop
  | null : Holds Is none .null
  | given {a v} (h : Is a v) : Holds Is (some a) v

/-- None of those names comes twice; all others may. -/
def Once (names : List String) (named : List (String × Json)) : Prop :=
  ((named.map Prod.fst).filter (· ∈ names)).Nodup

instance (names : List String) (named : List (String × Json)) : Decidable (Once names named) :=
  inferInstanceAs (Decidable ((named.map Prod.fst).filter (· ∈ names)).Nodup)

inductive IsBase (ref : String) : Json → Prop
  | mk {named v w} (h : Json.IsObject named v) (hone : Once ["ref"] named)
      (hfound : named.lookup "ref" = some w) (href : Json.IsString ref w) : IsBase ref v

inductive IsPullRequest (c : Content) : Json → Prop
  | mk {named v w} (h : Json.IsObject named v)
      (hone : Once ["number", "title", "body", "merged", "base"] named)
      (number : Takes (Holds IsNatural) none (named.lookup "number") c.pullNumber)
      (title : Takes (Holds Json.IsString) none (named.lookup "title") c.title)
      (body : Takes (Holds Json.IsString) none (named.lookup "body") c.body)
      (merged : Takes (Holds IsFlag) none (named.lookup "merged") c.merged)
      (hfound : named.lookup "base" = some w) (hbase : IsBase c.base w) : IsPullRequest c v

inductive IsPayload (c : Content) : Json → Prop
  | mk {named v w} (h : Json.IsObject named v)
      (hone : Once ["action", "number", "pull_request"] named)
      (action : Takes (Holds Json.IsString) none (named.lookup "action") c.action)
      (number : Takes (Holds IsNatural) none (named.lookup "number") c.number)
      (hfound : named.lookup "pull_request" = some w) (hpull : IsPullRequest c w) : IsPayload c v

/-- An object without a member of the first name, or in which that member lacks the rest. -/
inductive Lacks : List String → Json → Prop
  | mk {name path ms} (h : ∀ m ∈ ms, Json.Spells m.1 name.toList → Lacks path m.2) :
      Lacks (name :: path) (.object ms true)

/-! Values -/

theorem readText_of_isString {s : String} {v : Json} (h : Json.IsString s v) :
    readText v = .ok s := by
  obtain ⟨h⟩ := h
  rw [readText, readPoints, Json.text?_of_spells h]

theorem readNumber_of_isNatural {n : UInt64} {v : Json} (h : IsNatural n v) :
    readNumber v = .ok n := by
  have hn : n.toNat < UInt64.size := n.toNat_lt
  rw [h]
  simp [readNumber, Json.integer?, hn]

theorem readBool_of_isFlag {b : Bool} {v : Json} (h : IsFlag b v) : readBool v = .ok b := by
  rw [h, readBool]

theorem readOption_of_holds {α : Type} {Is : α → Json → Prop} {read : Json → Except Misread α}
    (hread : ∀ a v, Is a v → read v = .ok a) (hnull : ∀ a, read .null ≠ .ok a)
    {value : Option α} {v : Json} (h : Holds Is value v) : readOption read v = .ok value := by
  cases h with
  | null => rfl
  | @given a v h =>
    have hv := hread a v h
    have hne : v ≠ .null := by
      rintro rfl
      exact hnull a hv
    rw [readOption, hv]
    · rfl
    · exact hne

/-! Members -/

variable {σ α : Type} {members : List (Member σ)} {named : List (String × Json)}
  {ms : List (List Nat × Json)} {seen : List String} {name : String} {s s' : σ}

def readNamed (members : List (Member σ)) : σ → String × Json → Except Misread σ :=
  readEntry Member.name Member.read members fun s _ => .ok s

theorem Once.count_le {names : List String} (h : Once names named) (hname : name ∈ names) :
    (named.map Prod.fst).count name ≤ 1 := by
  have hfilter := List.nodup_iff_count_le_one.1 h name
  rwa [List.count_filter (by simpa using hname)] at hfilter

theorem Once.tail {names : List String} {n : String × Json} (h : Once names (n :: named)) :
    Once names named := by
  rw [Once, List.map_cons, List.filter_cons] at h
  split at h
  · exact h.of_cons
  · exact h

/-- Members are read one by one if what is asked for comes once. -/
theorem readMembers_eq_foldlM
    (hnames : List.Forall₂ (fun m n => Json.Spells m.1 n.1.toList ∧ m.2 = n.2) ms named)
    (hwhole : Json.membersAreWhole ms = true) (hone : Once (members.map Member.name) named)
    (hseen : ∀ name ∈ seen, name ∉ named.map Prod.fst) :
    readMembers members seen s ms = named.foldlM (readNamed members) s := by
  induction hnames generalizing seen s with
  | nil => rfl
  | @cons m n ms named hm _ ih =>
    obtain ⟨key, v⟩ := m
    obtain ⟨name, w⟩ := n
    obtain ⟨hkey, rfl⟩ := hm
    rw [Json.membersAreWhole, Bool.and_eq_true] at hwhole
    rw [readMembers, readPoints, Json.text?_of_spells hkey, List.foldlM_cons, readNamed, readEntry]
    have hlater : ∀ x ∈ seen, x ∉ named.map Prod.fst := fun x hx hmem =>
      hseen x hx (List.mem_cons_of_mem _ hmem)
    cases hfind : members.find? (·.name = name) with
    | none =>
      -- skipped, which takes only that its text is JSON
      simp only [hfind, hwhole.1, bind, Except.bind]
      exact ih hwhole.2 hone.tail hlater
    | some member =>
      have hnew : name ∉ seen := fun hmem => hseen name hmem List.mem_cons_self
      have hknown : name ∈ members.map Member.name := by
        obtain ⟨hmem, rfl⟩ := mem_of_find? hfind
        exact List.mem_map_of_mem hmem
      have hnext : ∀ x ∈ name :: seen, x ∉ named.map Prod.fst := by
        refine List.forall_mem_cons.2 ⟨?_, hlater⟩
        exact notMem_of_count_le (hone.count_le hknown)
      simp only [hfind, hnew, if_false, bind, Except.bind]
      cases member.read v s with
      | error m => rfl
      | ok s'' => exact ih hwhole.2 hone.tail hnext

theorem exists_foldlM_readNamed (hone : Once (members.map Member.name) named)
    (h : ∀ name ∈ members.map Member.name, ∀ v ∈ named.lookup name, ∀ s,
      ∃ s', readNamed members s (name, v) = .ok s') (s : σ) :
    ∃ s', named.foldlM (readNamed members) s = .ok s' := by
  refine exists_foldlM (fun n hn s => ?_) s
  by_cases hname : n.1 ∈ members.map Member.name
  · exact h n.1 hname n.2 (lookup_of_mem (hone.count_le hname) hn) s
  · exact ⟨s, readEntry_of_notMem hname s n.2⟩

theorem readRecord_of_isObject {v : Json} {what : String} {finish : σ → Except Misread α}
    (hv : Json.IsObject named v) (hwhole : v.isWhole = true)
    (hone : Once (members.map Member.name) named)
    (hrun : named.foldlM (readNamed members) s = .ok s') :
    readRecord what members s finish v = finish s' := by
  obtain ⟨hnames⟩ := hv
  rw [Json.isWhole, Bool.true_and] at hwhole
  have hread : readMembers members [] s _ = _ :=
    readMembers_eq_foldlM hnames hwhole hone (List.forall_mem_nil _)
  simp only [readRecord, hread, hrun, bind, Except.bind, if_true]

theorem isWhole_of_lookup {v w : Json} (hv : Json.IsObject named v) (hwhole : v.isWhole = true)
    (hfound : named.lookup name = some w) : w.isWhole = true := by
  obtain ⟨hnames⟩ := hv
  rw [Json.isWhole, Bool.true_and] at hwhole
  induction hnames with
  | nil => cases hfound
  | @cons m n ms named hm _ ih =>
    obtain ⟨key, v⟩ := m
    obtain ⟨k, x⟩ := n
    obtain ⟨-, rfl⟩ := hm
    rw [Json.membersAreWhole, Bool.and_eq_true] at hwhole
    rw [List.lookup_cons] at hfound
    split at hfound
    · cases hfound
      exact hwhole.1
    · exact ih hfound hwhole.2

/-! Fields of drafts -/

theorem slot_readNamed {β : Type} {dec : Json → Except Misread β} {g : β → α} {get : σ → α}
    {m : Member σ} {set : σ → β → σ} (hfind : members.find? (·.name = name) = some m)
    (hread : ∀ v s, m.read v s = dec v >>= fun b => pure (set s b))
    (hget : ∀ s b, get (set s b) = g b)
    (hkeeps : ∀ m ∈ members, m.name ≠ name → ∀ {v s s'}, m.read v s = .ok s' → get s' = get s) :
    Slot (readNamed members) name (fun v => (dec v).map g) get :=
  slot_readEntry hfind hread hget hkeeps fun h => (Except.ok.inj h).symm

def baseMembers : List (Member (Option String)) := [⟨"ref", fun v _ => some <$> readText v⟩]

theorem slot_ref : Slot (readNamed baseMembers) "ref" (fun v => (readText v).map some) id :=
  slot_readNamed rfl (fun _ _ => rfl) (fun _ _ => rfl) (by simp [baseMembers])

theorem slot_pullNumber : Slot (readNamed pullRequestMembers) "number"
    (fun v => (readOption readNumber v).map id) PullRequestDraft.number :=
  slot_readNamed rfl (fun _ _ => rfl) (fun _ _ => rfl)
    (by simp [pullRequestMembers, bind_eq_ok, pure, Except.pure])

theorem slot_title : Slot (readNamed pullRequestMembers) "title"
    (fun v => (readOption readText v).map id) PullRequestDraft.title :=
  slot_readNamed rfl (fun _ _ => rfl) (fun _ _ => rfl)
    (by simp [pullRequestMembers, bind_eq_ok, pure, Except.pure])

theorem slot_body : Slot (readNamed pullRequestMembers) "body"
    (fun v => (readOption readText v).map id) PullRequestDraft.body :=
  slot_readNamed rfl (fun _ _ => rfl) (fun _ _ => rfl)
    (by simp [pullRequestMembers, bind_eq_ok, pure, Except.pure])

theorem slot_merged : Slot (readNamed pullRequestMembers) "merged"
    (fun v => (readOption readBool v).map id) PullRequestDraft.merged :=
  slot_readNamed rfl (fun _ _ => rfl) (fun _ _ => rfl)
    (by simp [pullRequestMembers, bind_eq_ok, pure, Except.pure])

theorem slot_base : Slot (readNamed pullRequestMembers) "base" (fun v => (readBase v).map some)
    PullRequestDraft.base :=
  slot_readNamed rfl (fun _ _ => rfl) (fun _ _ => rfl)
    (by simp [pullRequestMembers, bind_eq_ok, pure, Except.pure])

theorem slot_action : Slot (readNamed Payload.members) "action"
    (fun v => (readOption readText v).map id) Draft.action :=
  slot_readNamed rfl (fun _ _ => rfl) (fun _ _ => rfl)
    (by simp [Payload.members, bind_eq_ok, pure, Except.pure])

theorem slot_number : Slot (readNamed Payload.members) "number"
    (fun v => (readOption readNumber v).map id) Draft.number :=
  slot_readNamed rfl (fun _ _ => rfl) (fun _ _ => rfl)
    (by simp [Payload.members, bind_eq_ok, pure, Except.pure])

theorem slot_pullRequest : Slot (readNamed Payload.members) "pull_request"
    (fun v => (readPullRequest v).map some) Draft.pullRequest :=
  slot_readNamed rfl (fun _ _ => rfl) (fun _ _ => rfl)
    (by simp [Payload.members, bind_eq_ok, pure, Except.pure])

/-! What is said is read -/

theorem takes_option {β : Type} {Is : β → Json → Prop} {read : Json → Except Misread β}
    {value : Option β} {found : Option Json} (hread : ∀ a v, Is a v → read v = .ok a)
    (hnull : ∀ a, read .null ≠ .ok a) (h : Takes (Holds Is) none found value) :
    Takes (Decodes fun v => (readOption read v).map id) none found value :=
  h.mono fun _ _ h => decodes_map (readOption_of_holds hread hnull h)

theorem takes_text {value : Option String} {found : Option Json}
    (h : Takes (Holds Json.IsString) none found value) :
    Takes (Decodes fun v => (readOption readText v).map id) none found value :=
  takes_option (fun _ _ => readText_of_isString) nofun h

theorem takes_number {value : Option UInt64} {found : Option Json}
    (h : Takes (Holds IsNatural) none found value) :
    Takes (Decodes fun v => (readOption readNumber v).map id) none found value :=
  takes_option (fun _ _ => readNumber_of_isNatural) nofun h

theorem takes_flag {value : Option Bool} {found : Option Json}
    (h : Takes (Holds IsFlag) none found value) :
    Takes (Decodes fun v => (readOption readBool v).map id) none found value :=
  takes_option (fun _ _ => readBool_of_isFlag) nofun h

theorem takes_some {β : Type} {dec : Json → Except Misread β} {b : β} {v : Json}
    (hfound : named.lookup name = some v) (h : dec v = .ok b) :
    Takes (Decodes fun v => (dec v).map some) none (named.lookup name) (some b) := by
  rw [hfound]
  exact .given (decodes_map h)

theorem readBase_of_isBase {ref : String} {v : Json} (h : IsBase ref v)
    (hwhole : v.isWhole = true) : readBase v = .ok ref := by
  obtain @⟨named, v, w, hv, hone, hfound, href⟩ := h
  replace hone : Once (baseMembers.map Member.name) named := hone
  have hmembers : ∀ name ∈ baseMembers.map Member.name, ∀ v ∈ named.lookup name, ∀ s,
      ∃ s', readNamed baseMembers s (name, v) = .ok s' := by
    have htakes := takes_some hfound (readText_of_isString href)
    exact List.forall_mem_singleton.2 (slot_ref.exists_step htakes)
  obtain ⟨s, hs⟩ := exists_foldlM_readNamed hone hmembers none
  have href' : s = some ref :=
    slot_ref.get_eq hs (hone.count_le (by decide)) (takes_some hfound (readText_of_isString href))
  rw [readBase, ← baseMembers, readRecord_of_isObject hv hwhole hone hs, href']
  rfl

theorem readPullRequest_of_isPullRequest {c : Content} {v : Json} (h : IsPullRequest c v)
    (hwhole : v.isWhole = true) :
    readPullRequest v = .ok ⟨c.pullNumber, c.title, c.body, c.merged, c.base⟩ := by
  obtain @⟨named, v, w, hv, hone, hnumber, htitle, hbody, hmerged, hfound, hbase⟩ := h
  have hbase' := takes_some hfound (readBase_of_isBase hbase (isWhole_of_lookup hv hwhole hfound))
  replace hone : Once (pullRequestMembers.map Member.name) named := hone
  have hmembers : ∀ name ∈ pullRequestMembers.map Member.name, ∀ v ∈ named.lookup name, ∀ s,
      ∃ s', readNamed pullRequestMembers s (name, v) = .ok s' := by
    simp only [pullRequestMembers, List.map_cons, List.map_nil, List.forall_mem_cons]
    exact ⟨slot_pullNumber.exists_step (takes_number hnumber),
      slot_title.exists_step (takes_text htitle), slot_body.exists_step (takes_text hbody),
      slot_merged.exists_step (takes_flag hmerged), slot_base.exists_step hbase', nofun⟩
  obtain ⟨d, hd⟩ := exists_foldlM_readNamed hone hmembers {}
  obtain rfl : d = ⟨c.pullNumber, c.title, c.body, c.merged, some c.base⟩ := by
    obtain ⟨number, title, body, merged, base⟩ := d
    congr 1
    · exact slot_pullNumber.get_eq hd (hone.count_le (by decide)) (takes_number hnumber)
    · exact slot_title.get_eq hd (hone.count_le (by decide)) (takes_text htitle)
    · exact slot_body.get_eq hd (hone.count_le (by decide)) (takes_text hbody)
    · exact slot_merged.get_eq hd (hone.count_le (by decide)) (takes_flag hmerged)
    · exact slot_base.get_eq hd (hone.count_le (by decide)) hbase'
  rw [readPullRequest, readRecord_of_isObject hv hwhole hone hd]
  rfl

theorem read_of_isPayload {c : Content} {v : Json} (h : IsPayload c v)
    (hwhole : v.isWhole = true) :
    read v = .ok {
      action := c.action
      merged := c.merged.getD false
      description := c.body
      targetBranch := Text.trim c.base
      number := c.pullNumber <|> c.number
      title := c.title } := by
  obtain @⟨named, v, w, hv, hone, haction, hnumber, hfound, hpull⟩ := h
  have hpull' := takes_some hfound
    (readPullRequest_of_isPullRequest hpull (isWhole_of_lookup hv hwhole hfound))
  replace hone : Once (Payload.members.map Member.name) named := hone
  have hmembers : ∀ name ∈ Payload.members.map Member.name, ∀ v ∈ named.lookup name, ∀ s,
      ∃ s', readNamed Payload.members s (name, v) = .ok s' := by
    simp only [Payload.members, List.map_cons, List.map_nil, List.forall_mem_cons]
    exact ⟨slot_action.exists_step (takes_text haction),
      slot_number.exists_step (takes_number hnumber), slot_pullRequest.exists_step hpull', nofun⟩
  obtain ⟨d, hd⟩ := exists_foldlM_readNamed hone hmembers {}
  have haction' := slot_action.get_eq hd (hone.count_le (by decide)) (takes_text haction)
  have hnumber' := slot_number.get_eq hd (hone.count_le (by decide)) (takes_number hnumber)
  have hdraft := slot_pullRequest.get_eq hd (hone.count_le (by decide)) hpull'
  rw [read, readRecord_of_isObject hv hwhole hone hd, Draft.finish, haction', hnumber', hdraft]
  rfl

/-! What is lacking is missed -/

theorem get_eq_of_refused {dec : Json → Except Misread α} {get : σ → α}
    (slot : Slot (readNamed members) name dec get)
    (hms : ∀ m ∈ ms, Json.text? m.1 = some name → ∀ a, ¬Decodes dec a m.2)
    (h : readMembers members seen s ms = .ok s') : get s' = get s := by
  induction ms generalizing seen s with
  | nil => cases h; rfl
  | cons m ms ih =>
    obtain ⟨key, v⟩ := m
    rw [List.forall_mem_cons] at hms
    rw [readMembers] at h
    obtain ⟨k, hk, h⟩ := bind_eq_ok.1 h
    have htext : Json.text? key = some k := by
      rw [readPoints] at hk
      split at hk <;> cases hk
      assumption
    cases hfind : members.find? (·.name = k) with
    | none =>
      simp only [hfind] at h
      split_ifs at h
      exact ih hms.2 h
    | some m =>
      simp only [hfind] at h
      split_ifs at h
      obtain ⟨s'', hm, h⟩ := bind_eq_ok.1 h
      have hstep : readNamed members s (k, v) = .ok s'' := by
        rw [readNamed, readEntry, hfind]
        exact hm
      -- had it been of the name, then it could be read
      have hname : k ≠ name := by
        rintro rfl
        exact hms.1 htext _ (slot.reads hstep)
      rw [ih hms.2 h, slot.keeps hname hstep]

theorem readRecord_ne_ok {β : Type} {dec : Json → Except Misread β} {get : σ → Option β}
    {what : String} {finish : σ → Except Misread α} {path : List String} {v : Json} {cs : List Char}
    (slot : Slot (readNamed members) name (fun v => (dec v).map some) get)
    (hstart : get s = none) (hfinish : ∀ {s a}, finish s = .ok a → (get s).isSome)
    (hdec : ∀ {v cs}, Json.IsText v cs → Lacks path v → ∀ b, dec v ≠ .ok b)
    (htext : Json.IsText v cs) (h : Lacks (name :: path) v) (a : α) :
    readRecord what members s finish v ≠ .ok a := by
  obtain @⟨_, _, ms, hms⟩ := h
  intro hrun
  obtain ⟨s', hs', hrun⟩ := bind_eq_ok.1 hrun
  have hget : get s' = get s := by
    refine get_eq_of_refused slot (fun m hm hname b hb => ?_) hs'
    obtain ⟨⟨ks, hks⟩, ⟨ds, hds⟩⟩ := htext.member hm
    have hlacks := hms m hm (Json.spells_of_text? hks hname)
    obtain ⟨b, hb, -⟩ := map_eq_ok.1 hb
    exact hdec hds hlacks b hb
  have hsome := hfinish hrun
  rw [hget, hstart] at hsome
  cases hsome

theorem isSome_of_required {field : Option α} {a : α} (h : required name field = .ok a) :
    field.isSome := by
  cases field with
  | none => cases h
  | some _ => rfl

theorem readBase_ne_ok {v : Json} {cs : List Char} (htext : Json.IsText v cs)
    (h : Lacks ["ref"] v) : ∀ ref, readBase v ≠ .ok ref :=
  readRecord_ne_ok slot_ref rfl isSome_of_required (fun _ h => by cases h) htext h

theorem readPullRequest_ne_ok {v : Json} {cs : List Char} (htext : Json.IsText v cs)
    (h : Lacks ["base", "ref"] v) : ∀ pr, readPullRequest v ≠ .ok pr := by
  refine readRecord_ne_ok slot_base rfl (fun {d pr} hfinish => ?_) readBase_ne_ok htext h
  obtain ⟨base, hbase, -⟩ := bind_eq_ok.1 hfinish
  exact isSome_of_required hbase

theorem read_ne_ok {v : Json} {cs : List Char} (htext : Json.IsText v cs)
    (h : Lacks ["pull_request", "base", "ref"] v) : ∀ e, read v ≠ .ok e := by
  refine readRecord_ne_ok slot_pullRequest rfl (fun {d e} hfinish => ?_) readPullRequest_ne_ok
    htext h
  obtain ⟨pr, hpr, -⟩ := bind_eq_ok.1 hfinish
  exact isSome_of_required hpr

end MergeNotes.Payload

namespace MergeNotes.Event

open Payload

theorem isEmpty_trim (s : String) : (Text.trim s).isEmpty = Text.isBlank s := by
  rw [Bool.eq_iff_iff, String.isEmpty_iff, Text.isBlank, ← Chars.trim_eq_nil_iff, Text.trim]
  exact ⟨fun h => by simpa using congrArg String.toList h, fun h => by rw [h]⟩

theorem ofPayload_eq {v : Json} {text : String} (htext : Json.IsDocument v text.toList) :
    ofPayload text = Payload.read v := by
  rw [ofPayload, Json.ofText_of_isDocument htext]
  cases hv : Payload.read v <;> simp only [hv, bind, Except.bind, pure, Except.pure, if_true]

/-- Every text of a payload is read as the event that it speaks of, unless its branch is blank, and
no text of an object without a branch is read as an event. -/
theorem parse_document {v : Json} {text : String} (htext : Json.IsDocument v text.toList) :
    (∀ c : Content, IsPayload c v →
      Event.parse text =
        if Text.isBlank c.base then .error (.refused .targetBranchEmpty)
        else .ok {
          action := c.action
          merged := c.merged.getD false
          description := c.body
          targetBranch := Text.trim c.base
          number := c.pullNumber <|> c.number
          title := c.title }) ∧
      (Lacks ["pull_request", "base", "ref"] v →
        ∃ m, Event.parse text = .error (.eventMisread m)) := by
  have hread := ofPayload_eq htext
  obtain ⟨before, cs, after, -, hcs, -, -⟩ := htext
  constructor
  · intro c hc
    rw [Event.parse, hread, read_of_isPayload hc hcs.isWhole]
    simp only [isEmpty_trim]
  · intro hlacks
    cases hv : Payload.read v with
    | error m => exact ⟨m, by rw [Event.parse, hread, hv]⟩
    | ok e => exact absurd hv (read_ne_ok hcs hlacks e)

/-- A pull request that has no number, null for whether it was merged, and a blank before the name
of its branch. -/
def samplePullRequest : Json :=
  .ofMembers [("base", .ofMembers [("ref", .ofString " main")]), ("merged", .null),
    ("body", .ofString "a\nb")]

def samplePayload : Json :=
  .ofMembers [("repository", .ofMembers [("private", .bool true)]),
    ("pull_request", samplePullRequest), ("number", .ofNat 17)]

def sampleText : String :=
  r#" {"repository":{"private":true},"pull_request":{"base":{"ref":" main"},"merged":null,"# ++
    r#""body":"a\nb"},"number":17}"# ++ "\n"

theorem isText_samplePullRequest : Json.IsText samplePullRequest samplePullRequest.write := by
  have hbase : ∀ m ∈ [("ref", Json.ofString " main")], Json.IsText m.2 m.2.write :=
    List.forall_mem_singleton.2 (Json.isText_ofString " main")
  refine Json.isText_ofMembers (by simp) ?_
  simp only [List.forall_mem_cons]
  exact ⟨Json.isText_ofMembers (by simp) hbase, .null, Json.isText_ofString "a\nb", nofun⟩

theorem isText_samplePayload : Json.IsText samplePayload samplePayload.write := by
  have hrepository : ∀ m ∈ [("private", Json.bool true)], Json.IsText m.2 m.2.write :=
    List.forall_mem_singleton.2 (Json.isText_bool true)
  refine Json.isText_ofMembers (by simp) ?_
  simp only [List.forall_mem_cons]
  exact ⟨Json.isText_ofMembers (by simp) hrepository, isText_samplePullRequest,
    Json.isText_ofNat (by decide), nofun⟩

theorem isPayload_samplePayload :
    IsPayload { number := some 17, body := some "a\nb", base := " main" } samplePayload := by
  have hbase : IsBase " main" (.ofMembers [("ref", .ofString " main")]) :=
    .mk (Json.isObject_ofMembers _) (by decide) rfl (.mk (Json.spells_map_toNat _))
  have hpull : IsPullRequest { number := some 17, body := some "a\nb", base := " main" }
      samplePullRequest :=
    .mk (Json.isObject_ofMembers _) (by decide) .missing .missing
      (.given (.given (.mk (Json.spells_map_toNat _)))) (.given .null) rfl hbase
  exact .mk (Json.isObject_ofMembers _) (by decide) .missing (.given (.given rfl)) rfl hpull

theorem parse_document_spaced :
    Event.parse sampleText = .ok {
      action := none
      merged := false
      description := some "a\nb"
      targetBranch := "main"
      number := some 17
      title := none } ∧
    ∃ m, Event.parse r#"{"pull_request":{}}"# = .error (.eventMisread m) := by
  have htext : Json.IsDocument samplePayload sampleText.toList :=
    ⟨[' '], _, ['\n'], by decide, isText_samplePayload, by decide, by decide +kernel⟩
  have hempty : Json.IsDocument (.ofMembers [("pull_request", .ofMembers [])])
      r#"{"pull_request":{}}"#.toList := by
    have hpull : ∀ m ∈ [("pull_request", Json.ofMembers [])], Json.IsText m.2 m.2.write :=
      List.forall_mem_singleton.2 (.emptyObject Json.isGap_nil)
    exact ⟨[], _, [], Json.isGap_nil, Json.isText_ofMembers (by simp) hpull, Json.isGap_nil, rfl⟩
  have hlacks : Lacks ["pull_request", "base", "ref"]
      (.ofMembers [("pull_request", .ofMembers [])]) :=
    .mk (List.forall_mem_singleton.2 fun _ => .mk nofun)
  refine ⟨?_, (parse_document hempty).2 hlacks⟩
  rw [(parse_document htext).1 _ isPayload_samplePayload]
  decide

end MergeNotes.Event

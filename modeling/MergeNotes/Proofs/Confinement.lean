import MergeNotes.Proofs.Document
import MergeNotes.Proofs.Names

namespace MergeNotes

namespace Path

variable {p q : Path} {gs : List Segment}

theorem components_eq (p : Path) :
    p.components = p.start?.toList ++ p.names.map Component.ofSegment := by
  rw [components, filter_body, names]

theorem start?_join (hq : q.isAbsolute = false) (hp : p.text ≠ "") :
    (p.join q).start? = p.start? := by
  obtain ⟨gs, fs, hne, hp, -, hjoin⟩ := segments_join hq hp
  rw [start?, start?, isAbsolute_join hq, hjoin, hp, List.head?_append_of_ne_nil _ hne,
    List.head?_append_of_ne_nil _ hne]

/-- A relative path adds its names; a dot at its start is a component after the empty path only. -/
theorem components_join (hq : q.isAbsolute = false) :
    (p.join q).components = p.components ++
      if p.text = "" then q.components else q.names.map Component.ofSegment := by
  split_ifs with hp
  · obtain rfl := eq_of_isEmpty (p := p) (by simpa using hp)
    rw [join, hq]
    rfl
  · rw [components_eq, components_eq, start?_join hq hp, names_join hq, List.map_append,
      List.append_assoc]

theorem text_join_ne (hq : q.text ≠ "") : (p.join q).text ≠ "" := by
  unfold join
  split_ifs <;> simp_all

theorem names_of_parent? (h : p.parent? = some q) :
    q.isAbsolute = p.isAbsolute ∧ q.names = p.names.dropLast := by
  unfold parent? at h
  split at h
  · rename_i g rest hrest
    cases h
    have hbody : dropLastFillers p.body = rest.reverse ++ [g] := by
      rw [← List.reverse_reverse (dropLastFillers p.body), hrest, List.reverse_cons]
    have hprefix : rest.reverse <+: p.body :=
      (hbody ▸ List.prefix_append _ _ : rest.reverse <+: dropLastFillers p.body).trans
        (isPrefix_dropLastFillers p.body)
    have hg : isFiller g = false := by
      have hlast := List.head?_dropWhile_not isFiller p.body.reverse
      rw [dropLastFillers, List.reverse_reverse] at hrest
      rw [hrest] at hlast
      simpa using hlast
    -- fillers behind the last name are no names
    have hnames : p.names = rest.reverse.filter (!isFiller ·) ++ [g] := by
      rw [names, ← filter_body, ← filter_dropLastFillers, hbody, List.filter_append]
      simp [hg]
    rw [hnames, List.dropLast_concat]
    exact ofBody_of_isPrefix hprefix
  · rename_i hnil
    split_ifs at h with hhere
    cases h
    have hrelative : p.isAbsolute = false := by
      unfold start? at hhere
      split_ifs at hhere <;> simp_all
    have hnames : p.names = [] := by
      rw [names, ← filter_body, ← filter_dropLastFillers, List.reverse_eq_nil_iff.1 hnil]
      rfl
    rw [hrelative, hnames]
    exact ⟨rfl, rfl⟩

/-- One path goes on from another by names alone. -/
structure LeadsDown (root p : Path) (gs : List Segment) : Prop where
  isAbsolute : p.isAbsolute = root.isAbsolute
  names : p.names = root.names ++ gs
  up : ['.', '.'] ∉ gs

variable {root : Path} {g : Segment}

theorem leadsDown_join (hrelative : q.isAbsolute = false) (hup : .up ∉ q.components) :
    root.LeadsDown (root.join q) q.names :=
  ⟨isAbsolute_join hrelative, names_join hrelative, up_notMem_names hup⟩

theorem LeadsDown.parent (h : root.LeadsDown p (gs ++ [g])) (hq : p.parent? = some q) :
    root.LeadsDown q gs := by
  obtain ⟨habs, hnames⟩ := names_of_parent? hq
  rw [h.names, ← List.append_assoc, List.dropLast_concat] at hnames
  exact ⟨habs.trans h.isAbsolute, hnames, fun hup => h.up (List.mem_append_left _ hup)⟩

end Path

namespace Disk

variable {d d' : Disk} {l : Location} {p q root : Path} {gs : List Path.Segment} {s : Set Location}

theorem locate_eq (d : Disk) (p : Path) :
    d.locate p = p.names.foldl follow (if p.isAbsolute then [] else d.here) := by
  rw [Path.names, foldl_follow_filter, locate]

theorem node?_makeDirectory (h : d.makeDirectory p = .ok d') (hl : l ≠ d.locate p) :
    d'.node? l = d.node? l := by
  obtain ⟨parent, m, hplace, -, rfl⟩ := exists_place_of_makeDirectory h
  rw [node?_put_of_ne (locate_of_place hplace ▸ hl)]

theorem node?_ensureDirectory (h : d.ensureDirectory p = .ok d') (hl : l ≠ d.locate p) :
    d'.node? l = d.node? l := by
  unfold ensureDirectory at h
  split at h
  · cases h
    exact node?_makeDirectory (by assumption) hl
  · split_ifs at h
    cases h
    rfl

theorem node?_append {c : ByteArray} (h : d.append p c = .ok d') (hl : l ≠ d.locate p) :
    d'.node? l = d.node? l := by
  obtain ⟨m, hm, h⟩ := bind_eq_ok.1 h
  cases h
  rw [node?_put_of_ne (resolve_eq_ok (fileTarget_eq_ok hm).1 ▸ hl)]

/-- Apart from certain files, nothing comes to be but directories. -/
theorem Evolves.node?_eq_or (h : Evolves s d d') (hl : l ∉ s) :
    d'.node? l = d.node? l ∨ d.node? l = none ∧ d'.node? l = some .directory := by
  have hfile := h.file l hl
  cases hd : d.node? l with
  | none =>
    cases hd' : d'.node? l with
    | none => exact .inl rfl
    | some n =>
      cases n with
      | directory => exact .inr ⟨rfl, rfl⟩
      | file c =>
        rw [fileAt?_eq_some.2 hd', fileAt?, hd] at hfile
        cases hfile
  | some n =>
    cases n with
    | directory => exact .inl (h.directory l hd)
    | file c =>
      rw [fileAt?_eq_some.2 hd] at hfile
      exact .inl (fileAt?_eq_some.1 hfile)

/-- The path leads to a directory, as the empty path does to the current one. -/
def HasDirectory (d : Disk) (p : Path) : Prop :=
  ∃ l, d.walk (if p.isAbsolute then [] else d.here) p.segments = .ok l ∧
    d.node? l = some .directory

theorem directory_of_walk {l' : Location} (h : d.walk l gs = .ok l')
    (hl' : d.node? l' = some .directory) : d.node? l = some .directory := by
  cases gs with
  | nil =>
    cases h
    exact hl'
  | cons g gs =>
    rw [walk, List.foldlM_cons, bind_eq_ok] at h
    obtain ⟨m, hm, -⟩ := h
    exact (enter_eq_ok hm).1

/-- Fillers do not matter on the way to a directory. -/
theorem walk_filter_iff {l' : Location} (hl' : d.node? l' = some .directory) :
    d.walk l (gs.filter (!Path.isFiller ·)) = .ok l' ↔ d.walk l gs = .ok l' := by
  induction gs generalizing l with
  | nil => rfl
  | cons g gs ih =>
    rw [walk, walk, List.foldlM_cons, bind_eq_ok]
    by_cases hg : Path.isFiller g = true
    · rw [List.filter_cons_of_neg (by simp [hg])]
      constructor
      · intro h
        have hwalk := ih.1 h
        refine ⟨l, ?_, hwalk⟩
        rw [enter, directory_of_walk hwalk hl']
        exact if_pos hg
      · rintro ⟨m, hm, h⟩
        obtain rfl : m = l := by rw [(enter_eq_ok hm).2, follow, if_pos hg]
        exact ih.2 h
    · rw [List.filter_cons_of_pos (by simpa using hg), List.foldlM_cons, bind_eq_ok]
      exact exists_congr fun m => and_congr_right fun _ => ih

theorem HasDirectory.of_names (h : d.HasDirectory p) (habs : q.isAbsolute = p.isAbsolute)
    (hnames : q.names = p.names) : d.HasDirectory q := by
  obtain ⟨l, hwalk, hl⟩ := h
  refine ⟨l, ?_, hl⟩
  rw [← walk_filter_iff hl, ← Path.names] at hwalk ⊢
  rwa [habs, hnames]

/-- A path to a directory can be followed, unless it is none that file operations take. -/
theorem HasDirectory.resolve_cases (h : d.HasDirectory p) (hp : p.text ≠ "") :
    (∃ l, d.resolve p = .ok l ∧ d.node? l = some .directory) ∨
      ∃ e, d.origin p = .error e ∧ e ≠ .notFound := by
  obtain ⟨l, hwalk, hl⟩ := h
  cases ho : d.origin p with
  | ok o =>
    rw [← origin_eq_ok ho] at hwalk
    exact .inl ⟨l, bind_eq_ok.2 ⟨o, ho, hwalk⟩, hl⟩
  | error e =>
    refine .inr ⟨e, rfl, ?_⟩
    rintro rfl
    unfold origin at ho
    split_ifs at ho <;> simp_all

theorem HasDirectory.ensureDirectory_ne (h : d.HasDirectory p) (hp : p.text ≠ "") :
    d.ensureDirectory p ≠ .error .notFound := by
  unfold ensureDirectory
  obtain ⟨l, hresolve, hl⟩ | ⟨e, horigin, he⟩ := h.resolve_cases hp
  · have hthere : d.isDirectory p = true := by
      rw [isDirectory, nodeAt?, hresolve]
      simp [hl]
    split
    · nofun
    · rw [if_pos hthere]
      nofun
  · have hmake : d.makeDirectory p = .error e := by
      rw [makeDirectory, place, horigin]
      rfl
    rw [hmake]
    dsimp only
    split_ifs
    · nofun
    · exact fun heq => he (Except.error.inj heq)

theorem HasDirectory.readFile (h : d.HasDirectory p) (hp : p.text ≠ "") :
    ∃ e, Changelog.readFile d p = .error e := by
  have hread : ∃ e, d.read p = .error e ∧ e ≠ .notFound := by
    obtain ⟨l, hresolve, hl⟩ | ⟨e, horigin, he⟩ := h.resolve_cases hp
    · refine ⟨.isADirectory, ?_, nofun⟩
      rw [read, hresolve]
      simp [bind, Except.bind, hl]
    · refine ⟨e, ?_, he⟩
      rw [read, resolve, horigin]
      rfl
  obtain ⟨e, hread, he⟩ := hread
  refine ⟨e, ?_⟩
  have htext : d.readText p = .error e := by
    rw [readText, hread]
    rfl
  rw [Changelog.readFile, htext]
  cases e with
  | notFound => exact absurd rfl he
  | _ => rfl

theorem locate_of_leadsDown (h : root.LeadsDown p gs) (d : Disk) :
    d.locate p = d.locate root ++ gs := by
  rw [Disk.locate_eq, h.isAbsolute, h.names, List.foldl_append, ← Disk.locate_eq]
  refine foldl_follow_of_forall _ fun g hg => ⟨?_, fun hup => h.up (hup ▸ hg)⟩
  have hmem : g ∈ p.names := h.names ▸ List.mem_append_right _ hg
  simpa using List.of_mem_filter hmem

section Below

variable (hroot : d.HasDirectory root) (hl : ¬d.locate root <+: l)

include hl in
theorem ne_locate (h : root.LeadsDown p gs) : l ≠ d.locate p := by
  rw [locate_of_leadsDown h]
  rintro rfl
  exact hl (List.prefix_append _ _)

include hroot hl in
/-- Directories that a path needs below one that is there are made below it. -/
theorem node?_makeDirectories (h : root.LeadsDown p gs) (n : Nat) :
    (d.makeDirectories n p).2.node? l = d.node? l := by
  induction n generalizing p gs with
  | zero => rfl
  | succ n ih =>
    unfold makeDirectories
    split_ifs with hempty
    · rfl
    split
    · exact node?_ensureDirectory (by assumption) (ne_locate hl h)
    · rename_i parent hensure hparent
      rcases List.eq_nil_or_concat' gs with rfl | ⟨gs, g, rfl⟩
      · -- the way up ends at the directory that is there
        have hnames := h.names.trans (List.append_nil _)
        exact absurd hensure
          ((hroot.of_names h.isAbsolute hnames).ensureDirectory_ne (by simpa using hempty))
      · have hrest := ih (h.parent hparent)
        have hevolves := d.evolves_makeDirectories n parent
        split
        · rename_i hmade
          rwa [hmade] at hrest
        · rename_i d₁ hmade
          rw [hmade] at hrest hevolves
          split
          · rename_i d₂ hensure₁
            rw [node?_ensureDirectory hensure₁ (hevolves.locate p ▸ ne_locate hl h), hrest]
          · exact hrest
    · rfl

include hroot hl in
theorem node?_makeParents {g : Path.Segment} (h : root.LeadsDown p (gs ++ [g])) :
    (d.makeParents p).2.node? l = d.node? l := by
  unfold makeParents
  split
  · rfl
  · exact node?_makeDirectories hroot hl (h.parent (by assumption)) _

end Below

end Disk

namespace Changelog

variable {d : Disk} {root p : Path} {gs : List Path.Segment} {l : Location}

/-- Recording an entry below a directory that is there leaves alone what is not below it. -/
theorem node?_append (hroot : d.HasDirectory root) (hl : ¬d.locate root <+: l)
    (h : root.LeadsDown p gs) (hp : p.text ≠ "") (e : Entry) :
    (append d p e).2.node? l = d.node? l := by
  unfold append
  cases hread : readFile d p with
  | error err => rfl
  | ok content =>
    rcases List.eq_nil_or_concat' gs with rfl | ⟨gs, g, rfl⟩
    · -- a directory has no text
      have hnames := h.names.trans (List.append_nil _)
      obtain ⟨err, herr⟩ := (hroot.of_names h.isAbsolute hnames).readFile hp
      rw [herr] at hread
      cases hread
    have hparents := Disk.node?_makeParents hroot hl h
    have hevolves := d.evolves_makeParents p
    dsimp only
    split
    · rename_i hmade
      rwa [hmade] at hparents
    · rename_i d₁ hmade
      rw [hmade] at hparents hevolves
      split
      · exact hparents
      · rename_i d₂ happend
        rw [Disk.node?_append happend (hevolves.locate p ▸ Disk.ne_locate hl h), hparents]

end Changelog

namespace Config

variable {text : String} {config : Config}

theorem changelog_of_parse (h : Config.parse text = .ok config) :
    config.changelog.path.text ≠ "" ∧ config.changelog.path.isAbsolute = false ∧
      .up ∉ config.changelog.path.components := by
  unfold Config.parse at h
  split at h
  · cases h
  split at h
  · cases h
  · rename_i c _ hvalid
    cases h
    apply Changelog.fault?_eq_none_iff.1
    unfold fault? at hvalid
    cases hpath : config.changelog.fault? <;> simp_all

theorem below_cases (hparse : Config.parse text = .ok config) {c : Path.Component}
    (hc : c ∈ config.changelog.path.components) : c = .here ∨ ∃ g, c = .name g := by
  obtain ⟨-, hrelative, hup⟩ := changelog_of_parse hparse
  cases c with
  | root => exact absurd ((Path.isAbsolute_iff _).2 hc) (by simp [hrelative])
  | here => exact .inl rfl
  | up => exact absurd hc hup
  | name g => exact .inr ⟨g, rfl⟩

/-- The path of the document is that of the repository followed by names and dots alone, so that it
leads to the repository or below it. Where the repository has a directory, recording an entry leaves
alone all that is not in it; where it has none, directories may be made on the way to it, and
nothing else is touched outside. -/
theorem append_confined (hparse : Config.parse text = .ok config) (root : Path) :
    let p := root.join config.changelog.path
    (∃ below, p.components = root.components ++ below ∧
      ∀ c ∈ below, c = .here ∨ ∃ g, c = .name g) ∧
    ∀ (d : Disk) (e : MergeNotes.Entry), d.locate root <+: d.locate p ∧
      ∀ l, ¬d.locate root <+: l →
        let d' := (MergeNotes.Changelog.append d p e).2
        (d.HasDirectory root → d'.node? l = d.node? l) ∧
        (d'.node? l = d.node? l ∨ d.node? l = none ∧ d'.node? l = some .directory) := by
  obtain ⟨hne, hrelative, hup⟩ := changelog_of_parse hparse
  have hdown : root.LeadsDown (root.join config.changelog.path) config.changelog.path.names :=
    Path.leadsDown_join hrelative hup
  refine ⟨⟨_, Path.components_join hrelative, fun c hc => ?_⟩, fun d e => ⟨?_, fun l hl => ?_⟩⟩
  · apply below_cases hparse
    split_ifs at hc
    · exact hc
    · rw [Path.components_eq]
      exact List.mem_append_right _ hc
  · rw [Disk.locate_of_leadsDown hdown]
    exact List.prefix_append _ _
  · refine ⟨fun hroot => Changelog.node?_append hroot hl hdown (Path.text_join_ne hne) e, ?_⟩
    exact (Changelog.evolves_append d _ e).node?_eq_or (Disk.ne_locate hl hdown)

/-- Two directories, in one of which a run is started for a repository in the other. -/
def sideBySide : Disk :=
  ⟨[(["desk".toList], .directory), (["work".toList], .directory)], ["desk".toList]⟩

theorem append_confined_beside :
    Config.parse "[changelog]\npath = \"./docs//CHANGES.md\"\n" =
        .ok { changelog := ⟨⟨"./docs//CHANGES.md"⟩⟩ } ∧
      sideBySide.HasDirectory ⟨"../work"⟩ ∧
      sideBySide.locate ⟨"../work"⟩ = ["work".toList] ∧
      let p := (⟨"../work"⟩ : Path).join ⟨"./docs//CHANGES.md"⟩
      let d' := (MergeNotes.Changelog.append sideBySide p .ours).2
      d'.fileAt? ["work".toList, "docs".toList, "CHANGES.md".toList] =
          some "- Ours\n".toUTF8 ∧
        ∀ l, ¬["work".toList] <+: l → d'.node? l = sideBySide.node? l := by
  have hparse : Config.parse "[changelog]\npath = \"./docs//CHANGES.md\"\n" =
      .ok { changelog := ⟨⟨"./docs//CHANGES.md"⟩⟩ } := by decide +kernel
  have hroot : sideBySide.HasDirectory ⟨"../work"⟩ := ⟨["work".toList], rfl, rfl⟩
  have hlocate : sideBySide.locate ⟨"../work"⟩ = ["work".toList] := by decide +kernel
  refine ⟨hparse, hroot, hlocate, by decide +kernel, fun l hl => ?_⟩
  exact (((append_confined hparse ⟨"../work"⟩).2 sideBySide .ours).2 l (hlocate ▸ hl)).1 hroot

end Config
end MergeNotes

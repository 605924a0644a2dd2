import MergeNotes.Load
import MergeNotes.Proofs.Chars
import MergeNotes.Proofs.Disk

namespace MergeNotes

namespace Path

variable {p q base : Path} {gs : List Segment}

def names (p : Path) : List Segment := p.segments.filter (!isFiller ·)

theorem filter_isStep_components (p : Path) :
    p.components.filter Component.isStep = p.names.map Component.ofSegment :=
  filter_components p

theorem segments_append (t u : String) :
    segments ⟨t ++ "/" ++ u⟩ = segments ⟨t⟩ ++ segments ⟨u⟩ := by
  have htext : (t ++ "/" ++ u).toList = t.toList ++ '/' :: u.toList := by simp
  rw [segments, htext, Chars.pieces_append (by simp)]
  rfl

theorem eq_of_isEmpty (h : p.text.isEmpty = true) : p = ⟨""⟩ := by
  cases p
  simpa using h

theorem segments_join (hq : q.isAbsolute = false) (hp : p.text ≠ "") :
    ∃ gs fs, gs ≠ [] ∧ p.segments = gs ++ fs ∧ (∀ f ∈ fs, isFiller f = true) ∧
      (p.join q).segments = gs ++ q.segments := by
  have hempty : p.text.isEmpty = false := by simpa using hp
  rw [join, hq, hempty, if_neg (by simp)]
  split_ifs with hslash
  · obtain ⟨t, ht⟩ : ∃ t : String, p.text = t ++ "/" := by
      obtain ⟨cs, hcs⟩ : ∃ cs, p.text.toList = cs ++ ['/'] := by
        simpa [List.getLast?_eq_some_iff] using hslash
      exact ⟨String.ofList cs, String.toList_injective (by simp [hcs])⟩
    have hp : p.segments = segments ⟨t⟩ ++ segments ⟨""⟩ := by
      rw [← segments_append, String.append_empty, ← ht]
    refine ⟨segments ⟨t⟩, segments ⟨""⟩, Chars.pieces_ne_nil _, hp, ?_, ?_⟩
    · simp [segments, Chars.pieces, isFiller]
    · rw [ht, segments_append]
  · exact ⟨p.segments, [], Chars.pieces_ne_nil _, (List.append_nil _).symm,
      List.forall_mem_nil _, segments_append p.text q.text⟩

theorem names_join (hq : q.isAbsolute = false) : (p.join q).names = p.names ++ q.names := by
  by_cases hp : p.text = ""
  · obtain rfl := eq_of_isEmpty (p := p) (by simpa using hp)
    rw [join, hq]
    rfl
  · obtain ⟨gs, fs, -, hsegments, hfs, hjoin⟩ := segments_join hq hp
    have hnone : fs.filter (!isFiller ·) = [] := List.filter_eq_nil_iff.2 (by simpa using hfs)
    rw [names, hjoin, names, names, hsegments, List.filter_append, List.filter_append, hnone,
      List.append_nil]

theorem isAbsolute_join (hq : q.isAbsolute = false) : (p.join q).isAbsolute = p.isAbsolute := by
  unfold join
  rw [hq, Bool.false_or]
  split_ifs with hp hslash
  · rw [eq_of_isEmpty hp, hq]
    rfl
  all_goals
    obtain ⟨c, cs, hcs⟩ : ∃ c cs, p.text.toList = c :: cs := by
      apply List.exists_cons_of_ne_nil
      simpa using hp
    simp [isAbsolute, hcs]

def SlashFree (gs : List Segment) : Prop := ∀ g ∈ gs, ∀ c ∈ g, (c == '/') = false

theorem segments_ofSegments (hne : gs ≠ []) (hgs : SlashFree gs) :
    (ofSegments gs).segments = gs := by
  rw [segments, ofSegments, String.toList_ofList, Chars.pieces_intercalate (by simp) hne hgs]

theorem names_ofSegments (hgs : SlashFree gs) :
    (ofSegments gs).names = gs.filter (!isFiller ·) := by
  by_cases hne : gs = []
  · subst hne
    rfl
  · rw [names, segments_ofSegments hne hgs]

theorem isAbsolute_ofSegments (hgs : SlashFree gs) (hhead : gs.head? ≠ some []) :
    (ofSegments gs).isAbsolute = false := by
  by_contra habs
  obtain ⟨gs', hgs'⟩ := exists_segments_eq_cons_of_isAbsolute (Bool.eq_true_of_not_eq_false habs)
  by_cases hne : gs = []
  · subst hne
    exact habs rfl
  · rw [segments_ofSegments hne hgs] at hgs'
    exact hhead (by rw [hgs']; rfl)

theorem filter_dropWhile (gs : List Segment) :
    (gs.dropWhile isFiller).filter (!isFiller ·) = gs.filter (!isFiller ·) := by
  induction gs with
  | nil => rfl
  | cons g gs ih => by_cases hg : isFiller g <;> simp [hg, ih]

theorem filter_dropLastFillers (gs : List Segment) :
    (dropLastFillers gs).filter (!isFiller ·) = gs.filter (!isFiller ·) := by
  rw [dropLastFillers, List.filter_reverse, filter_dropWhile, ← List.filter_reverse,
    List.reverse_reverse]

theorem isPrefix_dropLastFillers (gs : List Segment) : dropLastFillers gs <+: gs := by
  rw [← List.reverse_suffix, dropLastFillers, List.reverse_reverse]
  exact List.dropWhile_suffix _

theorem head?_eq_of_head?_dropLastFillers {g : Segment}
    (h : (dropLastFillers gs).head? = some g) : gs.head? = some g := by
  obtain ⟨rest, hrest⟩ := List.head?_eq_some_iff.1 h
  obtain ⟨dropped, hdropped⟩ := isPrefix_dropLastFillers gs
  rw [← hdropped, hrest]
  rfl

theorem filter_dropNamed (n : Nat) (gs : List Segment) :
    (dropNamed n gs).filter (!isFiller ·) = (gs.filter (!isFiller ·)).drop n := by
  induction n, gs using dropNamed.induct with
  | case1 gs => simp [dropNamed]
  | case2 n hn => simp [dropNamed]
  | case3 n g gs hg ih => simp [dropNamed, hg, ih]
  | case4 n g gs hg ih => simp [dropNamed, hg, ih]

theorem dropNamed_suffix (n : Nat) (gs : List Segment) : dropNamed n gs <:+ gs := by
  induction n, gs using dropNamed.induct with
  | case1 gs => simp [dropNamed]
  | case2 n hn => simp [dropNamed]
  | case3 n g gs hg ih =>
    rw [dropNamed, if_pos hg]
    exact ih.trans (List.suffix_cons g gs)
  | case4 n g gs hg ih =>
    rw [dropNamed, if_neg hg]
    exact ih.trans (List.suffix_cons g gs)

theorem body_suffix (p : Path) : p.body <:+ p.segments := by
  unfold body
  split_ifs
  · exact List.tail_suffix _
  · exact List.suffix_rfl

theorem slashFree_dropLastFillers (h : gs ⊆ p.body) : SlashFree (dropLastFillers gs) :=
  fun _ hg => Chars.mem_pieces
    (p.body_suffix.subset (h ((isPrefix_dropLastFillers gs).subset hg)))

theorem head?_dropLastFillers_ne (hp : p.isAbsolute = false) (hgs : gs <+: p.segments) :
    (dropLastFillers gs).head? ≠ some [] := by
  intro hhead
  have hfirst := head?_eq_of_head?_dropLastFillers hhead
  obtain ⟨rest, rfl⟩ := List.head?_eq_some_iff.1 hfirst
  obtain ⟨rest', hsegments⟩ := hgs
  cases hcs : p.text.toList with
  | nil =>
    have hp : p.segments = [[]] := by rw [segments, hcs]; rfl
    rw [hp] at hsegments
    obtain rfl : rest = [] := by simp_all
    cases hhead
  | cons c cs =>
    have hc : (c == '/') = false := by simpa [isAbsolute, hcs] using hp
    rw [segments, hcs, Chars.pieces, if_neg (by simp [hc])] at hsegments
    split at hsegments <;> simp at hsegments

theorem ofBody_root (hgs : SlashFree gs) :
    (ofBody (some .root) gs).isAbsolute = true ∧
      (ofBody (some .root) gs).names = gs.filter (!isFiller ·) := by
  cases gs with
  | nil => exact ⟨rfl, rfl⟩
  | cons g gs =>
    have hsegments : SlashFree ([] :: g :: gs) := List.forall_mem_cons.2 ⟨by simp, hgs⟩
    refine ⟨?_, names_ofSegments hsegments⟩
    simp [ofBody, ofSegments, isAbsolute, List.intercalate_cons_cons]

theorem ofBody_of_isPrefix (h : gs <+: p.body) :
    (ofBody p.start? (dropLastFillers gs)).isAbsolute = p.isAbsolute ∧
      (ofBody p.start? (dropLastFillers gs)).names = gs.filter (!isFiller ·) := by
  have hgs : SlashFree (dropLastFillers gs) := slashFree_dropLastFillers h.subset
  -- the start is put back: a slash, a dot, or nothing
  rw [← filter_dropLastFillers gs]
  by_cases habs : p.isAbsolute = true
  · have hstart : p.start? = some .root := by simp [start?, habs]
    rw [hstart, habs]
    exact ofBody_root hgs
  have hp : p.isAbsolute = false := by simpa using habs
  rw [hp]
  by_cases hhere : p.segments.head? = some ['.']
  · have hstart : p.start? = some .here := by simp [start?, hp, hhere]
    have hsegments : SlashFree (['.'] :: dropLastFillers gs) :=
      List.forall_mem_cons.2 ⟨by simp, hgs⟩
    rw [hstart, ofBody]
    refine ⟨isAbsolute_ofSegments hsegments (by simp), ?_⟩
    rw [names_ofSegments hsegments, List.filter_cons_of_neg (by simp [isFiller])]
  · have hstart : p.start? = none := by simp [start?, hp, hhere]
    have hbody : p.body = p.segments := by simp [body, hstart]
    have hof : ofBody p.start? (dropLastFillers gs) = ofSegments (dropLastFillers gs) := by
      rw [hstart]
      rfl
    rw [hof]
    exact ⟨isAbsolute_ofSegments hgs (head?_dropLastFillers_ne hp (hbody ▸ h)),
      names_ofSegments hgs⟩

theorem ofSegments_dropNamed (p : Path) (n : Nat) :
    (ofSegments (dropLastFillers ((dropNamed n p.body).dropWhile isFiller))).isAbsolute = false ∧
      (ofSegments (dropLastFillers ((dropNamed n p.body).dropWhile isFiller))).names =
        p.names.drop n := by
  have hsegments : SlashFree (dropLastFillers ((dropNamed n p.body).dropWhile isFiller)) :=
    slashFree_dropLastFillers
      ((List.dropWhile_suffix _).trans (dropNamed_suffix n p.body)).subset
  constructor
  · refine isAbsolute_ofSegments hsegments fun hhead => ?_
    -- the first segment that is left is no filler
    have hfirst := List.head?_dropWhile_not isFiller (dropNamed n p.body)
    rw [head?_eq_of_head?_dropLastFillers hhead] at hfirst
    cases hfirst
  · rw [names_ofSegments hsegments, filter_dropLastFillers, filter_dropWhile, filter_dropNamed,
      filter_body, names]

/-- What follows one path in a relative one has lost the names of that. -/
theorem after?_eq_some (hp : p.isAbsolute = false) (h : after? base p = some q) :
    q.isAbsolute = false ∧ q.names = p.names.drop base.names.length := by
  unfold after? at h
  split_ifs at h with hbase hbelow
  · cases h
    have hlength : base.names.length = 0 := by
      have hsteps := filter_isStep_components base
      rw [hbase] at hsteps
      simpa using hsteps
    have hwhole := ofBody_of_isPrefix (p := p) List.prefix_rfl
    rwa [hp, filter_body, ← names, ← List.drop_zero (l := p.names), ← hlength] at hwhole
  · rw [Option.some.injEq, filter_body, ← names] at h
    rw [← h]
    exact ofSegments_dropNamed p base.names.length

theorem after?_eq_none_iff : after? base p = none ↔ ¬base.components <+: p.components := by
  unfold after?
  split_ifs with hbase hbelow
  · simp [hbase]
  · simpa using hbelow
  · simpa using hbelow

theorem isAbsolute_relativeTo (hp : p.isAbsolute = false) :
    (relativeTo base p).isAbsolute = false := by
  rw [relativeTo]
  cases h : after? base p with
  | none => exact hp
  | some q => exact (after?_eq_some hp h).1

/-- Seen from a path that it starts with, a relative path has lost the names of that. -/
theorem names_relativeTo (hp : p.isAbsolute = false) (h : base.components <+: p.components) :
    (relativeTo base p).names = p.names.drop base.names.length := by
  rw [relativeTo]
  cases hq : after? base p with
  | none => exact absurd h (after?_eq_none_iff.1 hq)
  | some q => exact (after?_eq_some hp hq).2

theorem relativeTo_of_not_isPrefix (h : ¬base.components <+: p.components) :
    relativeTo base p = p := by
  rw [relativeTo, after?_eq_none_iff.2 h, Option.getD_none]

theorem isPrefix_names (h : p.components <+: q.components) : p.names <+: q.names := by
  have hsteps := h.filter Component.isStep
  rw [filter_isStep_components, filter_isStep_components] at hsteps
  exact (List.prefix_map_iff_of_injective ofSegment_injective).1 hsteps

theorem names_ne_nil_iff (hup : .up ∉ p.components) :
    p.names ≠ [] ↔ ∃ g, .name g ∈ p.components := by
  rw [ne_eq, ← List.map_eq_nil_iff (f := Component.ofSegment), ← filter_isStep_components,
    List.filter_eq_nil_iff]
  push Not
  constructor
  · rintro ⟨c, hc, hstep⟩
    cases c with
    | up => exact absurd hc hup
    | name g => exact ⟨g, hc⟩
    | root | here => cases hstep
  · rintro ⟨g, hg⟩
    exact ⟨_, hg, rfl⟩

theorem up_notMem_names (hup : .up ∉ p.components) : ['.', '.'] ∉ p.names := by
  intro hmem
  have hcomponent := List.mem_map_of_mem (f := Component.ofSegment) hmem
  rw [← filter_isStep_components] at hcomponent
  exact hup (List.mem_of_mem_filter hcomponent)

end Path

namespace Disk

theorem locate_join (d : Disk) {p q : Path} (hq : q.isAbsolute = false) :
    d.locate (p.join q) = q.names.foldl follow (d.locate p) := by
  rw [locate, ← foldl_follow_filter, ← Path.names, Path.names_join hq, Path.isAbsolute_join hq,
    List.foldl_append, Path.names, foldl_follow_filter, locate]

theorem foldl_follow_of_forall {gs : List Path.Segment} (l : Location)
    (hgs : ∀ g ∈ gs, Path.isFiller g = false ∧ g ≠ ['.', '.']) : gs.foldl follow l = l ++ gs := by
  induction gs generalizing l with
  | nil => simp
  | cons g gs ih =>
    rw [List.forall_mem_cons] at hgs
    obtain ⟨⟨hfiller, hup⟩, hgs⟩ := hgs
    rw [List.foldl_cons, ih _ hgs]
    simp [follow, hfiller, hup]

/-- A walk that does not go up sees only what lies below, and ends there. -/
theorem walk_congr {d d' : Disk} {l : Location} {gs : List Path.Segment}
    (hsame : ∀ k, d'.node? (l ++ k) = d.node? (l ++ k)) (hup : ['.', '.'] ∉ gs) :
    d'.walk l gs = d.walk l gs ∧ ∀ m, d.walk l gs = .ok m → d'.node? m = d.node? m := by
  induction gs generalizing l with
  | nil =>
    refine ⟨rfl, fun m hm => ?_⟩
    cases hm
    simpa using hsame []
  | cons g gs ih =>
    rw [List.mem_cons, not_or] at hup
    have hl : d'.node? l = d.node? l := by simpa using hsame []
    have henter : d'.enter l g = d.enter l g := by rw [enter, hl, enter]
    rw [walk, walk, List.foldlM_cons, List.foldlM_cons, henter]
    cases hg : d.enter l g with
    | error e => exact ⟨rfl, fun m hm => by cases hm⟩
    | ok m =>
      refine ih (fun k => ?_) hup.2
      rw [(enter_eq_ok hg).2, follow, if_neg (Ne.symm hup.1)]
      split_ifs
      · exact hsame k
      · rw [List.append_assoc]
        exact hsame _

theorem locate_join_of_up_notMem (d : Disk) {p q : Path} (hq : q.isAbsolute = false)
    (hup : ['.', '.'] ∉ q.names) : d.locate (p.join q) = d.locate p ++ q.names := by
  rw [locate_join d hq, foldl_follow_of_forall]
  intro g hg
  refine ⟨?_, fun h => hup (h ▸ hg)⟩
  simpa using List.of_mem_filter hg

end Disk

namespace Config.Changelog

variable {c : Changelog}

theorem fault?_eq_none_iff :
    c.fault? = none ↔
      c.path.text ≠ "" ∧ c.path.isAbsolute = false ∧ .up ∉ c.path.components := by
  unfold fault?
  split_ifs <;> simp_all

/-- The entry goes to the place that all the names of the configured path lead to. -/
theorem locate_written (d : Disk) (root : Path) (hc : c.fault? = none) :
    d.locate (root.join c.path) = d.locate root ++ c.path.names := by
  obtain ⟨-, hrelative, hup⟩ := fault?_eq_none_iff.1 hc
  exact d.locate_join_of_up_notMem hrelative (Path.up_notMem_names hup)

/-- The repository is asked about the place that the names after its own lead to. -/
theorem locate_asked (d : Disk) {root : Path} (hc : c.fault? = none)
    (hbelow : root.components <+: c.path.components) :
    d.locate (root.join (Path.relativeTo root c.path)) =
      d.locate root ++ c.path.names.drop root.names.length := by
  obtain ⟨-, hrelative, hup⟩ := fault?_eq_none_iff.1 hc
  have hnames := Path.names_relativeTo hrelative hbelow
  rw [d.locate_join_of_up_notMem (Path.isAbsolute_relativeTo hrelative), hnames]
  rw [hnames]
  exact fun h => Path.up_notMem_names hup (List.mem_of_mem_drop h)

/-- The repository at `root` is asked about the file that the entry goes to, exactly unless the
configured path starts with all that `root` is made of and a name is among that. -/
theorem locate_relativeTo_iff (d : Disk) (root : Path) (hc : c.fault? = none) :
    d.locate (root.join (Path.relativeTo root c.path)) = d.locate (root.join c.path) ↔
      ¬(root.components <+: c.path.components ∧ ∃ g, .name g ∈ root.components) := by
  by_cases hbelow : root.components <+: c.path.components
  · obtain ⟨-, -, hup⟩ := fault?_eq_none_iff.1 hc
    have hlength := (Path.isPrefix_names hbelow).length_le
    rw [locate_written d root hc, locate_asked d hc hbelow, List.append_cancel_left_eq,
      ← Path.names_ne_nil_iff (fun h => hup (hbelow.subset h))]
    simp only [hbelow, true_and, ne_eq, not_not]
    constructor
    · intro h
      have hdrop := congrArg List.length h
      rw [List.length_drop] at hdrop
      exact List.length_eq_zero_iff.1 (by omega)
    · intro h
      rw [h, List.length_nil, List.drop_zero]
  · rw [Path.relativeTo_of_not_isPrefix hbelow]
    simp [hbelow]

/-- Written with a dot before it, the same directory is no start of the configured path. -/
theorem locate_relativeTo_dotted :
    (⟨⟨"docs/CHANGELOG.md"⟩⟩ : Changelog).fault? = none ∧
      (⟨[], []⟩ : Disk).locate ((⟨"./docs"⟩ : Path).join
          (Path.relativeTo ⟨"./docs"⟩ ⟨"docs/CHANGELOG.md"⟩)) =
        (⟨[], []⟩ : Disk).locate ((⟨"./docs"⟩ : Path).join ⟨"docs/CHANGELOG.md"⟩) := by
  have hc : (⟨⟨"docs/CHANGELOG.md"⟩⟩ : Changelog).fault? = none := by decide +kernel
  have hroot : ¬(⟨"./docs"⟩ : Path).components <+: (⟨"docs/CHANGELOG.md"⟩ : Path).components := by
    decide +kernel
  exact ⟨hc, (locate_relativeTo_iff ⟨[], []⟩ ⟨"./docs"⟩ hc).2 fun h => hroot h.1⟩

/-- Below a directory that is named like the start of the configured path, the entry goes to one
file and the repository is asked about another. -/
theorem locate_relativeTo_ne :
    Config.parse "[changelog]\npath = \"docs/CHANGELOG.md\"\n" =
        .ok { changelog := ⟨⟨"docs/CHANGELOG.md"⟩⟩ } ∧
      Path.relativeTo ⟨"docs"⟩ ⟨"docs/CHANGELOG.md"⟩ = ⟨"CHANGELOG.md"⟩ ∧
      (⟨[], []⟩ : Disk).locate ((⟨"docs"⟩ : Path).join
        (Path.relativeTo ⟨"docs"⟩ ⟨"docs/CHANGELOG.md"⟩)) =
          ["docs".toList, "CHANGELOG.md".toList] ∧
      (⟨[], []⟩ : Disk).locate ((⟨"docs"⟩ : Path).join ⟨"docs/CHANGELOG.md"⟩) =
          ["docs".toList, "docs".toList, "CHANGELOG.md".toList] := by
  decide +kernel

end Config.Changelog
end MergeNotes

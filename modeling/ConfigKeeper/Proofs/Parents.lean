import ConfigKeeper.Proofs.Splitting
import ConfigKeeper.Store.File
import Mathlib.Data.List.DropRight

namespace ConfigKeeper

namespace Path

/-- The steps through names, of which the empty ones lead nowhere. -/
def through (names : List Bytes) : List Step := (names.filter fun s ↦ !s.isEmpty).map step

/-- The steps along a part of a path. -/
def way (b : Bytes) : List Step := through (segments b)

theorem through_append (names others : List Bytes) :
    through (names ++ others) = through names ++ through others := by
  simp [through]

theorem through_isPrefix {names others : List Bytes} (h : names <+: others) :
    through names <+: through others := by
  obtain ⟨rest, rfl⟩ := h
  rw [through_append]
  exact List.prefix_append _ _

theorem intercalate_segments (b : Bytes) : [slash].intercalate (segments b) = b :=
  List.intercalate_splitOn slash

theorem way_nil : way [] = [] := rfl

theorem way_append_slash (a b : Bytes) : way (a ++ slash :: b) = way a ++ way b := by
  rw [way, segments, List.splitOn_append_cons_self, through_append]
  rfl

theorem way_slash (b : Bytes) : way (slash :: b) = way b := way_append_slash [] b

theorem stay_of_mem_through {names : List Bytes} (h : ∀ name ∈ names, isBlank name) {s : Step}
    (hs : s ∈ through names) : s = .stay := by
  obtain ⟨name, hname, rfl⟩ := List.mem_map.1 hs
  obtain ⟨hmem, hne⟩ := List.mem_filter.1 hname
  have hblank := h name hmem
  have hdot : (name == [dot]) = true := by
    rw [isBlank, Bool.or_eq_true] at hblank
    exact hblank.resolve_left (by simpa using hne)
  rw [step, if_pos hdot]

theorem through_singleton {name : Bytes} (h : ¬isBlank name) : through [name] = [step name] := by
  have hne : name.isEmpty = false := by
    rw [isBlank, Bool.or_eq_true, not_or] at h
    simpa using h.1
  simp [through, hne]

/-- The slash or the dot in front of a path is a part of its own. -/
theorem way_front_append (p : Path) {r : Bytes} (h : r <+: p.bytes.drop p.leading) :
    way (p.bytes.take p.leading ++ r) = way (p.bytes.take p.leading) ++ way r := by
  rw [leading] at h ⊢
  split at h
  · next hfront =>
    rw [if_pos hfront]
    cases hbytes : p.bytes with
    | nil =>
      rw [List.take_nil, List.nil_append, way_nil, List.nil_append]
    | cons c rest =>
      rw [hbytes, List.drop_succ_cons, List.drop_zero] at h
      simp only [isAbsolute, hbytes, List.head?_cons, Bool.or_eq_true, beq_iff_eq,
        Option.some.injEq, List.cons.injEq, List.take_succ_cons] at hfront
      rw [List.take_succ_cons, List.take_zero, List.singleton_append]
      rcases hfront with (rfl | ⟨rfl, rfl⟩) | ⟨rfl, hrest⟩
      · rw [way_slash, way_slash, way_nil, List.nil_append]
      · rw [List.prefix_nil.1 h, way_nil, List.append_nil]
      · cases rest with
        | nil => cases hrest
        | cons d rest =>
          rw [List.take_succ_cons, List.take_zero, List.cons.injEq] at hrest
          obtain ⟨rfl, -⟩ := hrest
          rcases List.prefix_cons_iff.1 h with rfl | ⟨r, rfl, -⟩
          · rw [way_nil, List.append_nil]
          · rw [way_slash]
            exact way_append_slash [dot] r
  · next hfront => rw [if_neg hfront, List.take_zero, List.nil_append, way_nil, List.nil_append]

theorem trimBlank_append (names : List Bytes) : ∃ blanks, (∀ name ∈ blanks, isBlank name) ∧
    names = trimBlank names ++ blanks :=
  ⟨names.rtakeWhile isBlank, fun _ ↦ List.mem_rtakeWhile_imp,
    (List.rdropWhile_append_rtakeWhile (p := isBlank)).symm⟩

theorem trimBlank_isPrefix (names : List Bytes) : trimBlank names <+: names :=
  List.rdropWhile_prefix isBlank names

theorem not_isBlank_of_trimBlank {names init : List Bytes} {last : Bytes}
    (h : trimBlank names = init ++ [last]) : ¬isBlank last := by
  have hne : names.rdropWhile isBlank ≠ [] := by
    intro hnil
    rw [show names.rdropWhile isBlank = init ++ [last] from h] at hnil
    exact List.append_ne_nil_of_right_ne_nil init (List.cons_ne_nil last []) hnil
  have hlast := List.rdropWhile_last_not isBlank names hne
  rwa [List.getLast_congr hne (by simp) h, List.getLast_concat] at hlast

theorem eq_nil_of_getLast? {steps stays : List Step} (hstays : ∀ s ∈ stays, s = .stay)
    {name : Bytes} (h : (steps ++ stays).getLast? = some (.into name)) : stays = [] := by
  rcases List.eq_nil_or_concat stays with hnil | ⟨init, s, rfl⟩
  · exact hnil
  · rw [List.concat_eq_append, ← List.append_assoc, List.getLast?_concat, Option.some_inj] at h
    rw [hstays s (by simp)] at h
    cases h

/-- Without its last step, the way through names goes through those that are left when the last
name is taken away with what leads nowhere, and stays where it is. -/
theorem dropLast_through {lead : List Step} (hlead : ∀ s ∈ lead, s = .stay) {names : List Bytes}
    {name : Bytes} (h : (lead ++ through names).getLast? = some (.into name)) :
    trimBlank names ≠ [] ∧ ∃ stays, (∀ s ∈ stays, s = .stay) ∧
      (lead ++ through names).dropLast =
        lead ++ through (trimBlank (trimBlank names).dropLast) ++ stays := by
  obtain ⟨blanks, hblanks, hnames⟩ := trimBlank_append names
  have hthrough : through names = through (trimBlank names) := by
    rw [hnames, through_append, ← List.append_assoc] at h
    have hnil := eq_nil_of_getLast? (fun s hs ↦ stay_of_mem_through hblanks hs) h
    rw [hnames, through_append, hnil, List.append_nil, ← hnames]
  rcases List.eq_nil_or_concat (trimBlank names) with hnil | ⟨init, last, hconcat⟩
  · rw [hthrough, hnil, show through [] = [] from rfl, List.append_nil,
      ← List.nil_append lead] at h
    rw [eq_nil_of_getLast? hlead h] at h
    cases h
  · rw [List.concat_eq_append] at hconcat
    obtain ⟨between, hbetween, hinit⟩ := trimBlank_append init
    refine ⟨by simp [hconcat], through between, fun s ↦ stay_of_mem_through hbetween, ?_⟩
    have hlast := through_singleton (not_isBlank_of_trimBlank hconcat)
    rw [hthrough, hconcat, through_append, hlast, List.dropLast_concat, ← List.append_assoc,
      List.dropLast_concat, List.append_assoc, ← through_append, ← hinit]

theorem stay_of_mem_way_front {p : Path} {s : Step} (h : s ∈ way (p.bytes.take p.leading)) :
    s = .stay := by
  rw [leading] at h
  split at h
  · next hfront =>
    cases hbytes : p.bytes with
    | nil =>
      rw [hbytes, List.take_nil, way_nil] at h
      cases h
    | cons c rest =>
      simp only [isAbsolute, hbytes, List.head?_cons, Bool.or_eq_true, beq_iff_eq,
        Option.some.injEq, List.cons.injEq, List.take_succ_cons] at hfront
      rw [hbytes, List.take_succ_cons, List.take_zero] at h
      rcases hfront with (rfl | ⟨rfl, -⟩) | ⟨rfl, -⟩
      · rw [way_slash, way_nil] at h
        cases h
      · exact List.mem_singleton.1 h
      · exact List.mem_singleton.1 h
  · rw [List.take_zero, way_nil] at h
    cases h

theorem way_intercalate {b : Bytes} {names : List Bytes} (h : names ⊆ segments b) :
    way ([slash].intercalate names) = through names := by
  by_cases hne : names = []
  · subst hne
    rfl
  · rw [way, segments, splitOn_intercalate_of_subset h hne]

theorem parent?_of_ne_nil {p : Path} (h : trimBlank (segments (p.bytes.drop p.leading)) ≠ []) :
    p.parent? = some ⟨p.bytes.take p.leading ++ [slash].intercalate
      (trimBlank (trimBlank (segments (p.bytes.drop p.leading))).dropLast)⟩ := by
  rw [parent?]
  split
  · next hnil => exact absurd hnil h
  · rfl

theorem steps_eq (p : Path) : p.steps =
    way (p.bytes.take p.leading) ++ through (segments (p.bytes.drop p.leading)) := by
  have hway := way_front_append p (List.prefix_refl _)
  rwa [List.take_append_drop] at hway

/-- The first names of a path, behind what stands in front, are a path that begins it. -/
theorem steps_of_names (p : Path) {names : List Bytes}
    (h : names <+: segments (p.bytes.drop p.leading)) :
    p.bytes.take p.leading ++ [slash].intercalate names <+: p.bytes ∧
      steps ⟨p.bytes.take p.leading ++ [slash].intercalate names⟩ =
        way (p.bytes.take p.leading) ++ through names := by
  have hrest : [slash].intercalate names <+: [slash].intercalate _ := intercalate_isPrefix h
  rw [intercalate_segments] at hrest
  have hbegins := (List.prefix_append_right_inj (p.bytes.take p.leading)).2 hrest
  rw [List.take_append_drop] at hbegins
  have hway := way_front_append p hrest
  rw [way_intercalate h.subset] at hway
  exact ⟨hbegins, hway⟩

theorem trimmed_isPrefix (names : List Bytes) :
    trimBlank (trimBlank names).dropLast <+: names :=
  ((trimBlank_isPrefix _).trans (List.dropLast_prefix _)).trans (trimBlank_isPrefix _)

theorem parent_isPrefix {p q : Path} (hq : p.parent? = some q) :
    q.bytes <+: p.bytes ∧ q.steps <+: p.steps := by
  by_cases hnil : trimBlank (segments (p.bytes.drop p.leading)) = []
  · simp only [parent?, hnil] at hq
    split at hq
    · cases hq
    · rw [Option.some_inj] at hq
      subst hq
      exact ⟨List.nil_prefix, List.nil_prefix⟩
  · rw [parent?_of_ne_nil hnil, Option.some_inj] at hq
    subst hq
    have hnames := trimmed_isPrefix (segments (p.bytes.drop p.leading))
    obtain ⟨hbegins, hsteps⟩ := p.steps_of_names hnames
    refine ⟨hbegins, ?_⟩
    rw [hsteps, steps_eq, List.prefix_append_right_inj]
    exact through_isPrefix hnames

/-- The parent leads to where the path makes its last step. -/
theorem steps_parent {p q : Path} (hq : p.parent? = some q) {name : Bytes}
    (hlast : p.steps.getLast? = some (.into name)) :
    ∃ stays, (∀ s ∈ stays, s = .stay) ∧ p.steps.dropLast = q.steps ++ stays := by
  rw [steps_eq] at hlast ⊢
  obtain ⟨hne, stays, hstays, hdrop⟩ := dropLast_through (fun s ↦ stay_of_mem_way_front) hlast
  rw [parent?_of_ne_nil hne, Option.some_inj] at hq
  subst hq
  refine ⟨stays, hstays, ?_⟩
  rw [hdrop, (p.steps_of_names (trimmed_isPrefix _)).2]

theorem ancestors_isPrefix {n : Nat} {p q : Path} (h : q ∈ Disk.ancestors n p) :
    q.bytes <+: p.bytes ∧ q.steps <+: p.steps := by
  induction n generalizing p with
  | zero =>
    rw [Disk.ancestors, List.mem_singleton] at h
    subst h
    exact ⟨List.prefix_refl _, List.prefix_refl _⟩
  | succ n ih =>
    rw [Disk.ancestors] at h
    split at h
    · next parent hparent =>
      rcases List.mem_cons.1 h with rfl | h
      · exact ⟨List.prefix_refl _, List.prefix_refl _⟩
      · obtain ⟨hbytes, hsteps⟩ := parent_isPrefix hparent
        obtain ⟨hbytes', hsteps'⟩ := ih h
        exact ⟨hbytes'.trans hbytes, hsteps'.trans hsteps⟩
    · rw [List.mem_singleton] at h
      subst h
      exact ⟨List.prefix_refl _, List.prefix_refl _⟩

theorem head?_of_isPrefix {b rest : Bytes} (h : b <+: rest) (hne : b ≠ []) :
    b.head? = rest.head? := by
  obtain ⟨more, rfl⟩ := h
  rw [List.head?_append_of_ne_nil b hne]

theorem fault?_of_isPrefix {p q : Path} (h : q.bytes <+: p.bytes) (hne : ¬q.isEmpty)
    (hfault : p.fault? = none) : q.fault? = none := by
  have hlength := h.length_le
  have hnul : p.bytes.contains 0 = false → q.bytes.contains 0 = false := by
    simp only [List.contains_eq_mem, decide_eq_false_iff_not]
    exact fun hp hq ↦ hp (h.mem hq)
  have hempty : q.isEmpty = false := by simpa using hne
  rw [fault?] at hfault ⊢
  split at hfault
  · cases hfault
  · next hzero =>
    rw [if_neg (by simpa using hnul (by simpa using hzero)), if_neg (by simp [hempty])]
    split at hfault
    · cases hfault
    · split at hfault
      · cases hfault
      · next hlong => rw [if_neg (by omega)]

end Path

namespace Disk

variable {d : Disk} {p q : Path} {start place : Place}

theorem walk_append (d : Disk) (start : Place) (steps rest : List Step) :
    d.walk start (steps ++ rest) = match d.walk start steps with
      | .ok next => d.walk next rest
      | .error f => .error f := by
  induction steps generalizing start with
  | nil => rfl
  | cons s steps ih =>
    rw [List.cons_append, walk, walk]
    cases d.enter start s with
    | ok next => exact ih next
    | error f => rfl

theorem find_of_walk (hfault : q.fault? = none)
    (hwalk : d.walk (if q.isAbsolute then [] else d.here) q.steps = .ok place) :
    d.find q = .ok (place, .directory) := by
  rcases List.eq_nil_or_concat q.steps with hnil | ⟨init, s, hconcat⟩
  · rw [hnil, walk] at hwalk
    cases hwalk
    simp only [find, target, hfault, hnil, List.dropLast_nil, List.getLast?_nil, walk,
      Option.getD_none]
  · rw [List.concat_eq_append] at hconcat
    rw [hconcat, walk_append] at hwalk
    split at hwalk
    · next next hnext =>
      simp only [find, target, hfault, hconcat, List.dropLast_concat, List.getLast?_concat, hnext,
        Option.getD_some]
      cases s with
      | stay | up =>
        cases hwalk
        rfl
      | into name =>
        simp only [walk, enter] at hwalk
        by_cases hlength : maxNameLength < name.length
        · simp [if_pos hlength] at hwalk
        · simp only [if_neg hlength] at hwalk ⊢
          cases hlookup : d.lookup? (name :: next) with
          | none => simp [hlookup] at hwalk
          | some e =>
            cases e with
            | file f => simp [hlookup] at hwalk
            | directory =>
              simp only [hlookup] at hwalk
              cases hwalk
              rfl
    · cases hwalk

/-- The way to a file ends with its name, in the directory that the steps before it lead to. -/
theorem walk_of_find {f : File} (h : d.find p = .ok (place, .file f)) : p.fault? = none ∧
    ∃ name folder, place = name :: folder ∧
      d.walk (if p.isAbsolute then [] else d.here) p.steps.dropLast = .ok folder ∧
      p.steps.getLast? = some (.into name) ∧ d.lookup? (name :: folder) = some (.file f) := by
  rw [find, target] at h
  cases hfault : p.fault? with
  | some fault =>
    rw [hfault] at h
    cases h
  | none =>
    cases hwalk : d.walk (if p.isAbsolute then [] else d.here) p.steps.dropLast with
    | error fault => simp [hfault, hwalk] at h
    | ok folder =>
      simp only [hfault, hwalk] at h
      cases hlast : p.steps.getLast? with
      | none => simp [hlast] at h
      | some s =>
        cases s with
        | stay | up => simp [hlast] at h
        | into name =>
          simp only [hlast, Option.getD_some] at h
          split at h
          · cases h
          · split at h
            · cases h
            · next hlookup =>
              split at h
              · cases h
              · cases h
                exact ⟨rfl, name, folder, rfl, rfl, rfl, hlookup⟩
            · cases h

/-- Whatever begins the way to a file that can be found is the way to a directory. -/
theorem find_of_isPrefix {f : File} (h : d.find p = .ok (place, .file f))
    (hbytes : q.bytes <+: p.bytes) (hsteps : q.steps <+: p.steps.dropLast) (hne : ¬q.isEmpty) :
    ∃ folder, d.find q = .ok (folder, .directory) := by
  obtain ⟨hfault, _, _, -, hwalk, -⟩ := walk_of_find h
  obtain ⟨rest, hrest⟩ := hsteps
  have habsolute : q.isAbsolute = p.isAbsolute := by
    have hnil : q.bytes ≠ [] := by simpa [Path.isEmpty] using hne
    rw [Path.isAbsolute, Path.head?_of_isPrefix hbytes hnil, Path.isAbsolute]
  rw [← hrest, walk_append] at hwalk
  split at hwalk
  · next folder hfolder =>
    rw [← habsolute] at hfolder
    exact ⟨folder, find_of_walk (Path.fault?_of_isPrefix hbytes hne hfault) hfolder⟩
  · cases hwalk

/-- A file that can be found lies below directories that the parents of its path lead to. -/
theorem find_parent {f : File} (h : d.find p = .ok (place, .file f)) {folder : Path}
    (hfolder : p.parent? = some folder) {n : Nat} (hq : q ∈ ancestors n folder)
    (hne : ¬q.isEmpty) : ∃ folder, d.find q = .ok (folder, .directory) := by
  obtain ⟨-, name, _, -, -, hlast, -⟩ := walk_of_find h
  obtain ⟨hbytes, -⟩ := Path.parent_isPrefix hfolder
  obtain ⟨hbytes', hsteps'⟩ := Path.ancestors_isPrefix hq
  -- The parent need not be written as the steps before the last one, but it makes them all.
  obtain ⟨stays, -, hsteps⟩ := Path.steps_parent hfolder hlast
  refine find_of_isPrefix h (hbytes'.trans hbytes) (hsteps'.trans ?_) hne
  rw [hsteps]
  exact List.prefix_append _ _

theorem makeDirectory_of_find {found : Place × Entry} (h : d.find p = .ok found) :
    ∃ f, d.makeDirectory p = .error f := by
  rw [find] at h
  rw [makeDirectory]
  cases htarget : d.target p with
  | error fault =>
    rw [htarget] at h
    cases h
  | ok t =>
    simp only [htarget] at h ⊢
    cases hlast : t.last with
    | stay | up => exact ⟨_, rfl⟩
    | into name =>
      simp only [hlast] at h ⊢
      split at h
      · cases h
      · next hlength =>
        rw [if_neg hlength]
        cases hlookup : d.lookup? (name :: t.folder) with
        | none =>
          rw [hlookup] at h
          cases h
        | some e => exact ⟨_, rfl⟩

theorem ensureDirectory_of_find {folder : Place} (h : d.find p = .ok (folder, .directory)) :
    d.ensureDirectory p = .ok d := by
  obtain ⟨f, hf⟩ := makeDirectory_of_find h
  have hdirectory : d.isDirectory p = true := by rw [isDirectory, h]
  rw [ensureDirectory, hf]
  exact if_pos hdirectory

theorem ancestors_eq_cons (n : Nat) (p : Path) : ∃ around, ancestors n p = p :: around := by
  cases n with
  | zero => exact ⟨[], rfl⟩
  | succ n =>
    rw [ancestors]
    split <;> exact ⟨_, rfl⟩

theorem ensureDirectories_of_find {folder : Place} (h : d.find p = .ok (folder, .directory)) :
    d.ensureDirectories p = (d, .ok ()) := by
  obtain ⟨around, haround⟩ := ancestors_eq_cons p.bytes.length p
  rw [ensureDirectories, haround, ensureChain]
  split
  · rfl
  · rw [ensureDirectory_of_find h]

end Disk

namespace Store

/-- No directory has to be created for a file that is there. -/
theorem ensureFolder_of_find {s : Store} {d : Disk} {place : Place} {f : Disk.File}
    (h : d.find s.path = .ok (place, .file f)) : s.ensureFolder d = (d, .ok ()) := by
  rw [ensureFolder]
  split
  · next folder hfolder =>
    split
    · rfl
    · next hne =>
      have hself : folder ∈ Disk.ancestors 0 folder := List.mem_singleton_self folder
      obtain ⟨place', hplace⟩ := Disk.find_parent h hfolder hself hne
      exact Disk.ensureDirectories_of_find hplace
  · rfl

end Store

end ConfigKeeper

import ConfigKeeper.Proofs.Files
import ConfigKeeper.Proofs.Parents

namespace ConfigKeeper

def Step.next (place : Place) : Step → Place
  | .stay => place
  | .up => place.tail
  | .into name => name :: place

namespace Path

def trail (start : Place) : List Step → List Place
  | [] => []
  | s :: rest => s.next start :: trail (s.next start) rest

/-- The places after each step of a path, which starts at the root or at the working directory. -/
def stops (p : Path) (here : Place) : List Place :=
  trail (if p.isAbsolute then [] else here) p.steps

theorem trail_subset {start : Place} {steps others : List Step} (h : steps <+: others) :
    trail start steps ⊆ trail start others := by
  induction steps generalizing start others with
  | nil => exact List.nil_subset _
  | cons s rest ih =>
    obtain ⟨more, rfl⟩ := h
    exact List.cons_subset_cons _ (ih (List.prefix_append rest more))

theorem stops_subset {p q : Path} (hbytes : q.bytes <+: p.bytes) (hsteps : q.steps <+: p.steps)
    (hne : ¬q.isEmpty) (here : Place) : q.stops here ⊆ p.stops here := by
  have hnil : q.bytes ≠ [] := by simpa [isEmpty] using hne
  have habsolute : q.isAbsolute = p.isAbsolute := by
    rw [isAbsolute, head?_of_isPrefix hbytes hnil, isAbsolute]
  rw [stops, stops, habsolute]
  exact trail_subset hsteps

end Path

namespace Disk

variable {d d' : Disk} {p : Path} {place : Place}

theorem enter_eq_next {start : Place} {s : Step} (h : d.enter start s = .ok place) :
    place = s.next start := by
  cases s with
  | stay | up =>
    cases h
    rfl
  | into name =>
    rw [enter] at h
    split at h
    · cases h
    · split at h
      · cases h
      · cases h
      · cases h
        rfl

theorem mem_trail_of_walk {start : Place} {steps : List Step} (h : d.walk start steps = .ok place)
    (last : Step) : last.next place ∈ Path.trail start (steps ++ [last]) := by
  induction steps generalizing start with
  | nil =>
    cases h
    exact List.mem_cons_self
  | cons s rest ih =>
    rw [walk] at h
    split at h
    · next next hnext =>
      rw [enter_eq_next hnext] at h
      exact List.mem_cons_of_mem _ (ih h)
    · cases h

theorem mem_stops_of_target {t : Target} (ht : d.target p = .ok t) {name : Bytes}
    (hlast : t.last = .into name) : name :: t.folder ∈ p.stops d.here := by
  rw [target] at ht
  split at ht
  · cases ht
  · split at ht
    · next folder hwalk =>
      cases ht
      have hget : p.steps.getLast? = some (.into name) := by
        cases hs : p.steps.getLast? with
        | none => simp [hs] at hlast
        | some s => simpa [hs] using hlast
      obtain ⟨init, hinit⟩ := List.getLast?_eq_some_iff.1 hget
      rw [hinit, List.dropLast_concat] at hwalk
      rw [Path.stops, hinit]
      exact mem_trail_of_walk hwalk (.into name)
    · cases ht

theorem lookup?_makeDirectory (h : d.makeDirectory p = .ok d') (hplace : place ∉ p.stops d.here) :
    d'.lookup? place = d.lookup? place := by
  rw [makeDirectory] at h
  split at h
  · cases h
  · next t ht =>
    split at h
    · cases h
    · cases h
    · next name hlast =>
      split at h
      · cases h
      · split at h
        · cases h
          have hne : place ≠ name :: t.folder := by
            rintro rfl
            exact hplace (mem_stops_of_target ht hlast)
          rw [lookup?_put (List.cons_ne_nil _ _), if_neg hne]
        · cases h

theorem mem_stops_of_openFile {f : File} (h : d.openFile p = .ok (place, f)) :
    place ∈ p.stops d.here := by
  obtain ⟨name, folder, rfl, htarget, -⟩ := openFile_cases h
  exact mem_stops_of_target htarget rfl

theorem lookup?_ensureDirectory (h : d.ensureDirectory p = .ok d')
    (hplace : place ∉ p.stops d.here) : d'.lookup? place = d.lookup? place := by
  rw [ensureDirectory] at h
  split at h
  · next hmade =>
    cases h
    exact lookup?_makeDirectory hmade hplace
  · split at h
    · cases h
      rfl
    · cases h

theorem lookup?_ensureChain {folders : List Path}
    (h : ∀ p ∈ folders, ¬p.isEmpty → place ∉ p.stops d.here) :
    (d.ensureChain folders).1.lookup? place = d.lookup? place := by
  induction folders with
  | nil => rfl
  | cons p around ih =>
    have hrest := ih fun q hq ↦ h q (List.mem_cons_of_mem _ hq)
    have hhere := (grown_ensureChain d around).here
    rw [ensureChain]
    split
    · rfl
    · next hne =>
      have hp := h p List.mem_cons_self hne
      split
      · next hmade => exact lookup?_ensureDirectory hmade hp
      · split
        · split
          · next hchain =>
            rw [hchain] at hrest
            exact hrest
          · next hchain =>
            rw [hchain] at hrest hhere
            split
            · next hmade => exact (lookup?_ensureDirectory hmade (hhere ▸ hp)).trans hrest
            · exact hrest
        · rfl

theorem isDirectory_of_ensureDirectory {f : Fault} (h : d.ensureDirectory p = .error f) :
    d.isDirectory p = false := by
  rw [ensureDirectory] at h
  split at h
  · cases h
  · split at h
    · cases h
    · next hdirectory => exact Bool.eq_false_iff.2 hdirectory

/-- Whatever has a place lies in a directory that is there. -/
def Rooted (d : Disk) : Prop :=
  ∀ name place e, d.lookup? (name :: place) = some e → d.lookup? place = some .directory

theorem Rooted.lookup?_of_isSuffix (hd : d.Rooted) {q : Place}
    (h : d.lookup? place = some .directory) (hq : q <:+ place) :
    d.lookup? q = some .directory := by
  induction place with
  | nil =>
    rw [List.suffix_nil.1 hq]
    exact h
  | cons name place ih =>
    rcases List.suffix_cons_iff.1 hq with rfl | hq
    · exact h
    · exact ih (hd _ _ _ h) hq

theorem isSuffix_of_walk {start : Place} {steps : List Step} (hup : .up ∉ steps)
    (h : d.walk start steps = .ok place) : start <:+ place := by
  induction steps generalizing start with
  | nil =>
    cases h
    exact List.suffix_refl _
  | cons s rest ih =>
    rw [List.mem_cons, not_or] at hup
    rw [walk] at h
    split at h
    · next next hnext =>
      have hsuffix := ih hup.2 h
      rw [enter_eq_next hnext] at hsuffix
      cases s with
      | stay => exact hsuffix
      | up => exact absurd rfl hup.1
      | into name => exact (List.suffix_cons name start).trans hsuffix
    · cases h

theorem Rooted.walk (hd : d.Rooted) {start : Place} {steps : List Step} (hup : .up ∉ steps)
    (h : d'.walk start steps = .ok place) (hplace : d.lookup? place = some .directory) :
    d.walk start steps = .ok place := by
  induction steps generalizing start with
  | nil => exact h
  | cons s rest ih =>
    rw [Disk.walk] at h ⊢
    cases hnext : d'.enter start s with
    | error fault =>
      rw [hnext] at h
      cases h
    | ok next =>
      rw [hnext] at h
      have hrest : .up ∉ rest := fun hmem ↦ hup (List.mem_cons_of_mem s hmem)
      -- Where no step leads up, all places on the way lie around its end.
      have hsuffix := isSuffix_of_walk hrest h
      have hthere := hd.lookup?_of_isSuffix hplace hsuffix
      suffices henter : d.enter start s = .ok next by
        rw [henter]
        exact ih hrest h
      cases s with
      | stay => exact hnext
      | up => exact absurd List.mem_cons_self hup
      | into name =>
        rw [enter_eq_next hnext, Step.next] at hthere ⊢
        rw [enter] at hnext ⊢
        split at hnext
        · cases hnext
        · next hlength => rw [if_neg hlength, hthere]

/-- The way to a file that was there is no new one, unless it leads up again out of a directory. -/
theorem Rooted.find (hd : d.Rooted) (hup : .up ∉ p.steps) (hhere : d'.here = d.here) {f old : File}
    (hfind : d'.find p = .ok (place, .file f)) (hold : d.lookup? place = some (.file old)) :
    d.find p = .ok (place, .file old) := by
  obtain ⟨hfault, name, folder, rfl, hwalk, hlast, hlookup⟩ := walk_of_find hfind
  have hfolders : .up ∉ p.steps.dropLast := fun hmem ↦ hup (List.dropLast_subset _ hmem)
  have hthere := hd.walk hfolders hwalk (hd _ _ _ hold)
  rw [hhere] at hthere hwalk
  simp only [Disk.find, target, hfault, hhere, hwalk, hthere, hlast, hlookup, hold,
    Option.getD_some] at hfind ⊢
  split at hfind
  · cases hfind
  · next hlength =>
    split at hfind
    · cases hfind
    · next hslash => rw [if_neg hlength, if_neg hslash]

theorem ensureChain_cons_of_error {around : List Path} {f : Fault}
    (h : d.ensureChain (p :: around) = (d', .error f)) : ¬p.isEmpty ∧
      (d'.isDirectory p = false ∨ around ≠ [] ∧ d.ensureChain around = (d', .error f)) := by
  rw [ensureChain] at h
  split at h
  · cases h
  · next hne =>
    refine ⟨hne, ?_⟩
    split at h
    · cases h
    · next hfault =>
      split at h
      · split at h
        · next hchain =>
          cases h
          cases around with
          | nil =>
            cases hchain
            exact Or.inl (isDirectory_of_ensureDirectory hfault)
          | cons q around => exact Or.inr ⟨List.cons_ne_nil q around, hchain⟩
        · -- The directories around it are there, and still this one cannot be made.
          split at h
          · cases h
          · next hagain =>
            cases h
            exact Or.inl (isDirectory_of_ensureDirectory hagain)
      · cases h
        exact Or.inl (isDirectory_of_ensureDirectory hfault)

/-- If the directories could not all be made then one of them is still missing in the end. -/
theorem missing_of_ensureChain {around : List Path} {f : Fault}
    (h : d.ensureChain (p :: around) = (d', .error f)) :
    ∃ q ∈ p :: around, ¬q.isEmpty ∧ d'.isDirectory q = false := by
  induction around generalizing p with
  | nil =>
    obtain ⟨hne, hmissing | ⟨hnil, -⟩⟩ := ensureChain_cons_of_error h
    · exact ⟨p, List.mem_cons_self, hne, hmissing⟩
    · exact absurd rfl hnil
  | cons q around ih =>
    obtain ⟨hne, hmissing | ⟨-, hchain⟩⟩ := ensureChain_cons_of_error h
    · exact ⟨p, List.mem_cons_self, hne, hmissing⟩
    · obtain ⟨r, hr, hmissing⟩ := ih hchain
      exact ⟨r, List.mem_cons_of_mem p hr, hmissing⟩

/-- A file at the end of a path was created or written anew; otherwise there are only new
directories on the way to it. -/
structure Written (d d' : Disk) (p : Path) (place : Place) (data : Bytes) : Prop where
  file : ∃ f, d'.find p = .ok (place, .file f) ∧ f.data = data
  before : d.lookup? place = none ∨ ∃ old, d.lookup? place = some (.file old)
  others : ∀ q, q ≠ place → d'.lookup? q = d.lookup? q ∨
    d.lookup? q = none ∧ d'.lookup? q = some .directory ∧ q ∈ p.stops d.here
  here : d'.here = d.here
  limit : d'.limit? = d.limit?

theorem Written.read {data : Bytes} (h : d.Written d' p place data) : d'.read p = .ok data := by
  obtain ⟨f, hfind, rfl⟩ := h.file
  exact read_of_find hfind

end Disk

namespace Store

variable {s : Store} {d d' : Disk} {place : Place} {events : List Log.Event}

theorem lookup?_ensureFolder (hplace : place ∉ s.path.stops d.here) :
    (s.ensureFolder d).1.lookup? place = d.lookup? place := by
  rw [ensureFolder]
  split
  · next folder hfolder =>
    split
    · rfl
    · -- The folder and those around it are all begun by the path.
      refine Disk.lookup?_ensureChain fun q hq hne hstop ↦ hplace ?_
      obtain ⟨hbytes, hsteps⟩ := Path.parent_isPrefix hfolder
      obtain ⟨hbytes', hsteps'⟩ := Path.ancestors_isPrefix hq
      exact Path.stops_subset (hbytes'.trans hbytes) (hsteps'.trans hsteps) hne d.here hstop
  · rfl

/-- A path whose directories could not all be made leads to no file. -/
theorem not_find_of_ensureFolder {fault : Disk.Fault} (h : s.ensureFolder d = (d', .error fault))
    {f : Disk.File} : d'.find s.path ≠ .ok (place, .file f) := by
  intro hfind
  rw [ensureFolder] at h
  split at h
  · next folder hfolder =>
    split at h
    · cases h
    · obtain ⟨around, haround⟩ := Disk.ancestors_eq_cons folder.bytes.length folder
      rw [Disk.ensureDirectories, haround] at h
      obtain ⟨q, hq, hne, hmissing⟩ := Disk.missing_of_ensureChain h
      rw [← haround] at hq
      obtain ⟨place', hplace⟩ := Disk.find_parent hfind hfolder hq hne
      rw [Disk.isDirectory, hplace] at hmissing
      cases hmissing
  · cases h

theorem written_of_openFile {between : Disk} {f : Disk.File}
    (hensure : s.ensureFolder d = (between, .ok ()))
    (hopen : between.openFile s.path = .ok (place, f)) (data : Bytes) :
    d.Written (between.put place (.file { f with data })) s.path place data := by
  have hgrown := grown_ensureFolder s d
  rw [hensure] at hgrown
  have hvacant := Disk.vacant_of_openFile hopen
  refine ⟨⟨_, Disk.find_put_of_openFile hopen _, rfl⟩, ?_, fun q hq ↦ ?_, hgrown.here,
    hgrown.limit⟩
  · cases hold : d.lookup? place with
    | none => exact Or.inl rfl
    | some e =>
      cases e with
      | file old => exact Or.inr ⟨old, rfl⟩
      | directory => exact absurd (hgrown.lookup? hold) hvacant
  · rw [Disk.lookup?_put hvacant.ne_nil, if_neg hq]
    by_cases hstop : q ∈ s.path.stops d.here
    · exact (hgrown.entry q).imp_right fun hnew ↦ ⟨hnew.1, hnew.2, hstop⟩
    · have hsame := lookup?_ensureFolder hstop
      rw [hensure] at hsame
      exact Or.inl hsame

theorem written_of_save (h : s.save d = ⟨.ok (), d', events⟩) : ∃ content place,
    s.toText = .ok content ∧ d.Written d' s.path place (Bytes.ofString content) := by
  have hsaves := save_saves s d
  rw [h] at hsaves
  cases hsaves with
  | done htext hensure hwrite =>
    obtain ⟨place, f, hopen, -, rfl⟩ := Disk.write_cases hwrite
    exact ⟨_, place, htext, written_of_openFile hensure hopen _⟩

/-- A save that fails leaves new directories at most, unless the file was opened: then it holds the
part of the text that the device let through. -/
theorem left_of_save {e : Error} (h : s.save d = ⟨.error e, d', events⟩) :
    Disk.Grown d d' ∨ ∃ content place part fault,
      e = .io "Failed to write configuration file" fault ∧ s.toText = .ok content ∧
      Limit.Stops d.limit? (Bytes.ofString content) part fault ∧
      d.Written d' s.path place part := by
  have hgrown := grown_ensureFolder s d
  have hsaves := save_saves s d
  rw [h] at hsaves
  cases hsaves with
  | clash _ => exact Or.inl (.refl d)
  | noFolder hensure | noFile hensure _ =>
    rw [hensure] at hgrown
    exact Or.inl hgrown
  | @stopped content between place f part fault htext hensure hopen hstops =>
    rw [hensure] at hgrown
    exact Or.inr ⟨content, place, part, fault, rfl, htext, hgrown.limit ▸ hstops,
      written_of_openFile hensure hopen part⟩

end Store

end ConfigKeeper

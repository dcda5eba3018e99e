import ConfigKeeper.Proofs.Ways
import ConfigKeeper.Store.File

namespace ConfigKeeper

namespace Limit

variable {limit? : Option Limit} {data part : Bytes} {fault : Disk.Fault}

/-- A part of the data gets through and no more, because of a fault. -/
def Stops (limit? : Option Limit) (data part : Bytes) (fault : Disk.Fault) : Prop :=
  ∃ octets, limit? = some ⟨octets, fault⟩ ∧ octets < data.length ∧ part = data.take octets

theorem pass_eq_error_iff :
    pass limit? data = (part, .error fault) ↔ Stops limit? data part fault := by
  cases limit? with
  | none => simp [pass, Stops]
  | some limit =>
    obtain ⟨octets, reason⟩ := limit
    by_cases hlength : data.length ≤ octets
    · simp [pass, Stops, hlength, Nat.not_lt.2 hlength]
    · rw [pass, if_neg hlength]
      constructor
      · intro h
        cases h
        exact ⟨octets, rfl, Nat.lt_of_not_le hlength, rfl⟩
      · rintro ⟨octets, heq, -, rfl⟩
        cases heq
        rfl

theorem eq_of_pass (h : pass limit? data = (part, .ok ())) : part = data := by
  cases limit? with
  | none =>
    cases h
    rfl
  | some limit =>
    rw [pass] at h
    split at h <;> cases h
    rfl

theorem pass_zero (hdata : data ≠ []) (fault : Disk.Fault) :
    pass (some ⟨0, fault⟩) data = ([], .error fault) := by
  have hlength : ¬data.length ≤ 0 := by simpa using hdata
  rw [pass, if_neg hlength, List.take_zero]

theorem isPrefix_of_pass {result : Except Disk.Fault Unit}
    (h : pass limit? data = (part, result)) : part <+: data := by
  cases limit? with
  | none =>
    cases h
    exact List.prefix_refl data
  | some limit =>
    rw [pass] at h
    split at h <;> cases h
    · exact List.prefix_refl data
    · exact data.take_prefix limit.octets

end Limit

namespace Disk

variable {d d' : Disk} {place : Place} {f : File}

theorem find_of_target {p : Path} {name : Bytes} {folder : Place}
    (htarget : d.target p = .ok ⟨folder, .into name, false⟩)
    (hlength : ¬maxNameLength < name.length) (h : d.lookup? (name :: folder) = some (.file f)) :
    d.find p = .ok (name :: folder, .file f) := by
  simp only [find, htarget, h, if_neg hlength, Bool.false_eq_true, if_false]

theorem Vacant.find_put {p : Path} {name : Bytes} {folder : Place}
    (h : d.Vacant (name :: folder)) (htarget : d.target p = .ok ⟨folder, .into name, false⟩)
    (hlength : ¬maxNameLength < name.length) (g : File) :
    (d.put (name :: folder) (.file g)).find p = .ok (name :: folder, .file g) := by
  refine find_of_target ((h.keepsFolders_put (.file g)).target htarget) hlength ?_
  rw [lookup?_put (List.cons_ne_nil _ _), if_pos rfl]

/-- A file that was opened to be written is at the end of the path, or nothing is there yet. -/
theorem openFile_cases {p : Path} (h : d.openFile p = .ok (place, f)) :
    ∃ name folder, place = name :: folder ∧ d.target p = .ok ⟨folder, .into name, false⟩ ∧
      ¬maxNameLength < name.length ∧ f.locked = false ∧
      (d.lookup? place = none ∨ d.lookup? place = some (.file f)) := by
  rw [openFile] at h
  split at h
  · cases h
  · next t ht =>
    obtain ⟨folder, last, slash⟩ := t
    split at h
    · cases h
    · cases h
    · next name hlast =>
      split at h
      · cases h
      · next hslash =>
        obtain rfl : last = .into name := hlast
        obtain rfl : slash = false := Bool.eq_false_iff.2 hslash
        split at h
        · cases h
        · next hlength =>
          split at h
          · next hnone =>
            cases h
            exact ⟨name, folder, rfl, ht, hlength, rfl, Or.inl hnone⟩
          · cases h
          · next hfile =>
            split at h
            · cases h
            · next hlocked =>
              cases h
              exact ⟨name, folder, rfl, ht, hlength, Bool.eq_false_iff.2 hlocked, Or.inr hfile⟩

theorem vacant_of_openFile {p : Path} (h : d.openFile p = .ok (place, f)) : d.Vacant place := by
  obtain ⟨name, folder, rfl, -, -, -, hnone | hfile⟩ := openFile_cases h
  · simp [Vacant, hnone]
  · simp [Vacant, hfile]

/-- Whatever is written to it, the path leads to the file that was opened. -/
theorem find_put_of_openFile {p : Path} (h : d.openFile p = .ok (place, f)) (g : File) :
    (d.put place (.file g)).find p = .ok (place, .file g) := by
  have hvacant := vacant_of_openFile h
  obtain ⟨name, folder, rfl, htarget, hlength, -, -⟩ := openFile_cases h
  exact hvacant.find_put htarget hlength g

theorem overwrite_of_error {p : Path} {fault : Fault} (h : d.openFile p = .error fault)
    (data : Bytes) : d.overwrite p data = (d, .error fault) := by
  rw [overwrite, h]

theorem overwrite_of_openFile {p : Path} (h : d.openFile p = .ok (place, f)) (data : Bytes) :
    d.overwrite p data = (d.put place (.file { f with data := (Limit.pass d.limit? data).1 }),
      (Limit.pass d.limit? data).2) := by
  rw [overwrite, h]

/-- All that writing a file anew can come to: it cannot be opened, or it was emptied or created and
holds what has got through, which may be all. -/
inductive Overwrites (d : Disk) (p : Path) (data : Bytes) : Disk × Except Fault Unit → Prop
  | closed {fault : Fault} : d.openFile p = .error fault → Overwrites d p data (d, .error fault)
  | stopped {place : Place} {f : File} {part : Bytes} {fault : Fault} :
      d.openFile p = .ok (place, f) → Limit.Stops d.limit? data part fault →
      Overwrites d p data (d.put place (.file { f with data := part }), .error fault)
  | done {place : Place} {f : File} : d.openFile p = .ok (place, f) →
      Limit.pass d.limit? data = (data, .ok ()) →
      Overwrites d p data (d.put place (.file { f with data }), .ok ())

theorem overwrite_overwrites (d : Disk) (p : Path) (data : Bytes) :
    Overwrites d p data (d.overwrite p data) := by
  cases hopen : d.openFile p with
  | error fault =>
    rw [overwrite_of_error hopen]
    exact .closed hopen
  | ok opened =>
    obtain ⟨place, f⟩ := opened
    rw [overwrite_of_openFile hopen]
    cases hpass : Limit.pass d.limit? data with
    | mk part result =>
      cases result with
      | error fault => exact .stopped hopen (Limit.pass_eq_error_iff.1 hpass)
      | ok _ =>
        obtain rfl := Limit.eq_of_pass hpass
        exact .done hopen hpass

theorem write_eq_ok_iff {p : Path} {data : Bytes} :
    d.write p data = .ok d' ↔ d.overwrite p data = (d', .ok ()) := by
  rw [write]
  generalize d.overwrite p data = written
  obtain ⟨d'', result⟩ := written
  cases result <;> simp

theorem write_cases {p : Path} {data : Bytes} (h : d.write p data = .ok d') :
    ∃ place f, d.openFile p = .ok (place, f) ∧ Limit.pass d.limit? data = (data, .ok ()) ∧
      d' = d.put place (.file { f with data }) := by
  have hover := overwrite_overwrites d p data
  rw [write_eq_ok_iff.1 h] at hover
  cases hover with
  | done hopen hpass => exact ⟨_, _, hopen, hpass, rfl⟩

theorem read_write {p : Path} {data : Bytes} (h : d.write p data = .ok d') :
    d'.read p = .ok data := by
  obtain ⟨place, f, hopen, -, rfl⟩ := write_cases h
  exact read_of_find (find_put_of_openFile hopen _)

theorem readText_eq_ok_iff {p : Path} {text : String} :
    d.readText p = .ok text ↔ ∃ data, d.read p = .ok data ∧ Bytes.toString? data = some text := by
  rw [readText]
  cases d.read p with
  | error f => simp
  | ok data => cases h : Bytes.toString? data <;> simp [h]

theorem has_of_readText {p : Path} {text : String} (h : d.readText p = .ok text) :
    d.has p = true := by
  obtain ⟨data, hread, -⟩ := readText_eq_ok_iff.1 h
  obtain ⟨place, f, hfind, -⟩ := find_of_read hread
  rw [has, hfind]
  rfl

end Disk

namespace Store

open Disk (Grown)

variable {s : Store} {d d' : Disk} {events : List Log.Event}

theorem grown_ensureFolder (s : Store) (d : Disk) : Grown d (s.ensureFolder d).1 := by
  rw [ensureFolder]
  split
  · split
    · exact .refl d
    · exact Disk.grown_ensureChain d _
  · exact .refl d

/-- All that saving a store can come to. -/
inductive Saves (s : Store) (d : Disk) : Attempt Unit → Prop
  | clash {f : DocumentFault} : s.toText = .error f → Saves s d ⟨.error (.document f), d, []⟩
  | noFolder {d' : Disk} {f : Disk.Fault} : s.ensureFolder d = (d', .error f) →
      Saves s d ⟨.error (.io "Failed to create configuration directory" f), d', []⟩
  | noFile {d' : Disk} {f : Disk.Fault} : s.ensureFolder d = (d', .ok ()) →
      d'.openFile s.path = .error f →
      Saves s d ⟨.error (.io "Failed to write configuration file" f), d', []⟩
  | stopped {text : String} {between : Disk} {place : Place} {f : Disk.File} {part : Bytes}
      {fault : Disk.Fault} : s.toText = .ok text → s.ensureFolder d = (between, .ok ()) →
      between.openFile s.path = .ok (place, f) →
      Limit.Stops between.limit? (Bytes.ofString text) part fault →
      Saves s d ⟨.error (.io "Failed to write configuration file" fault),
        between.put place (.file { f with data := part }), []⟩
  | done {text : String} {between d' : Disk} : s.toText = .ok text →
      s.ensureFolder d = (between, .ok ()) →
      between.write s.path (Bytes.ofString text) = .ok d' → Saves s d ⟨.ok (), d', [.wrote s.path]⟩

theorem save_saves (s : Store) (d : Disk) : Saves s d (s.save d) := by
  rw [save]
  split
  · next htext => exact .clash htext
  · next text htext =>
    split
    · next hfolder => exact .noFolder hfolder
    · next between hfolder =>
      have hover := between.overwrite_overwrites s.path (Bytes.ofString text)
      cases hwrite : between.overwrite s.path (Bytes.ofString text) with
      | mk d' result =>
        rw [hwrite] at hover
        cases hover with
        | closed hopen => exact .noFile hfolder hopen
        | stopped hopen hstops => exact .stopped htext hfolder hopen hstops
        | done _ _ => exact .done htext hfolder (Disk.write_eq_ok_iff.2 hwrite)

/-- The text of a store is never empty, as its last line is ended. -/
theorem ofString_toText_ne_nil {text : String} (h : s.toText = .ok text) :
    Bytes.ofString text ≠ [] := by
  intro hnil
  have hempty := Bytes.toString?_ofString text
  rw [hnil] at hempty
  obtain rfl : "" = text := Option.some.inj hempty
  rw [toText] at h
  split at h
  · next tree _ =>
    have hchars : tree.chars = [] := by simpa [Yaml.Tree.render] using h
    unfold Yaml.Tree.chars at hchars
    obtain ⟨hbody, hline⟩ := List.append_eq_nil_iff.1 hchars
    rw [hbody] at hline
    cases hline
  · cases h

/-- The file of a store holds its text. -/
def Saved (s : Store) (d : Disk) : Prop :=
  ∃ text, s.toText = .ok text ∧ d.readText s.path = .ok text

theorem Saved.has (h : s.Saved d) : d.has s.path = true := by
  obtain ⟨text, -, hread⟩ := h
  exact Disk.has_of_readText hread

theorem Saved.of_readText (h : s.Saved d) (hd : d'.readText s.path = d.readText s.path) :
    s.Saved d' := by
  obtain ⟨text, htext, hread⟩ := h
  exact ⟨text, htext, hd.trans hread⟩

theorem save_ok (h : s.save d = ⟨.ok (), d', events⟩) :
    ∃ text, s.toText = .ok text ∧ d'.read s.path = .ok (Bytes.ofString text) := by
  have hsaves := save_saves s d
  rw [h] at hsaves
  cases hsaves with
  | done htext hfolder hwrite => exact ⟨_, htext, Disk.read_write hwrite⟩

theorem saved_of_save (h : s.save d = ⟨.ok (), d', events⟩) : s.Saved d' := by
  obtain ⟨text, htext, hread⟩ := save_ok h
  exact ⟨text, htext, Disk.readText_eq_ok_iff.2 ⟨_, hread, Bytes.toString?_ofString text⟩⟩

/-- Once its folder is there, the file alone decides whether a store can be saved. -/
theorem save_of_overwrite {text : String} {between : Disk} {result : Except Disk.Fault Unit}
    (htext : s.toText = .ok text) (hfolder : s.ensureFolder d = (between, .ok ()))
    (hwrite : between.overwrite s.path (Bytes.ofString text) = (d', result)) :
    s.save d = ⟨result.mapError (.io "Failed to write configuration file"), d',
      if result.isOk then [.wrote s.path] else []⟩ := by
  simp only [save, htext, hfolder, hwrite]
  cases result <;> rfl

theorem save_of_write_ok (h : s.write d = ⟨.ok (), d', events⟩) :
    s.save d = ⟨.ok (), d', events⟩ := by
  rw [write] at h
  split at h
  · cases h
  · exact h

theorem save_of_write_error {e : Error} (h : s.write d = ⟨.error e, d', events⟩) :
    ∃ cause, e = .persistence "Failed to write updated configuration" cause ∧
      s.save d = ⟨.error cause, d', events⟩ := by
  rw [write] at h
  split at h
  · next hsave =>
    cases h
    exact ⟨_, rfl, hsave⟩
  · next hne => exact absurd h (hne e d' events)

theorem write_ok (h : s.write d = ⟨.ok (), d', events⟩) : s.Saved d' :=
  saved_of_save (save_of_write_ok h)

theorem write_error {e : Error} (h : s.write d = ⟨.error e, d', events⟩) :
    ∃ context cause, e = .persistence context cause := by
  obtain ⟨cause, rfl, -⟩ := save_of_write_error h
  exact ⟨_, cause, rfl⟩

theorem loadOrCreate_new (env : Environment) {path : Path} (hnone : d.has path = false) :
    loadOrCreate env d path =
      let saving := (initialAt env d path).save d
      { result := (saving.result.mapError
          (.persistence "Failed to write default configuration")).map fun _ ↦ initialAt env d path
        disk := saving.disk
        events := .noConfiguration path :: saving.events } := by
  rw [loadOrCreate, hnone]
  simp only [Bool.false_eq_true, if_false]
  split
  · next hsave =>
    rw [hsave]
    rfl
  · next hsave =>
    rw [hsave]
    rfl

theorem save_of_loadOrCreate {env : Environment} {path : Path} (hnone : d.has path = false)
    (h : loadOrCreate env d path = ⟨.ok s, d', events⟩) :
    s = initialAt env d path ∧ ∃ events', s.save d = ⟨.ok (), d', events'⟩ := by
  rw [loadOrCreate_new env hnone] at h
  generalize initialAt env d path = t at h ⊢
  cases hsave : t.save d with
  | mk result d'' events' =>
    rw [hsave] at h
    cases result with
    | error cause => cases h
    | ok _ =>
      cases h
      exact ⟨rfl, _, hsave⟩

theorem save_of_loadOrCreate_error {env : Environment} {path : Path} {e : Error}
    (hnone : d.has path = false) (h : loadOrCreate env d path = ⟨.error e, d', events⟩) :
    ∃ cause events', e = .persistence "Failed to write default configuration" cause ∧
      (initialAt env d path).save d = ⟨.error cause, d', events'⟩ := by
  rw [loadOrCreate_new env hnone] at h
  generalize initialAt env d path = t at h ⊢
  cases hsave : t.save d with
  | mk result d'' events' =>
    rw [hsave] at h
    cases result with
    | error cause =>
      cases h
      exact ⟨cause, _, rfl, rfl⟩
    | ok _ => cases h

/-- The store of a path where nothing was is the one of a file that says nothing, and it was saved.
-/
theorem loadOrCreate_missing {env : Environment} {path : Path} (hnone : d.has path = false)
    (h : loadOrCreate env d path = ⟨.ok s, d', events⟩) :
    s = initialAt env d path ∧ s.Saved d' := by
  obtain ⟨hs, events', hsave⟩ := save_of_loadOrCreate hnone h
  exact ⟨hs, saved_of_save hsave⟩

theorem loadOrCreate_present (env : Environment) {path : Path} (h : d.has path = true) :
    loadOrCreate env d path = ⟨(load env d path).result, d, (load env d path).events⟩ := by
  rw [loadOrCreate, if_pos h]

theorem load_of_readText (env : Environment) {path : Path} {text : String}
    (h : d.readText path = .ok text) : load env d path = ofText env d path text := by
  rw [load, h]

end Store

end ConfigKeeper

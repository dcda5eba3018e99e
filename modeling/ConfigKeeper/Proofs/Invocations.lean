import ConfigKeeper.Proofs.Histories
import ConfigKeeper.Proofs.Resaving

namespace ConfigKeeper

open Log (Logger)

/-- The only difference is what the file at a place holds. -/
structure Disk.Rewritten (d d' : Disk) (place : Place) (f : File) (data : Bytes) : Prop where
  file : d'.lookup? place = some (.file { f with data })
  others : ∀ q, q ≠ place → d'.lookup? q = d.lookup? q
  here : d'.here = d.here
  limit : d'.limit? = d.limit?

theorem Disk.rewritten_of_write {d d' : Disk} {p : Path} {data : Bytes} {place : Place} {f : File}
    (h : d.write p data = .ok d') (hfind : d.find p = .ok (place, .file f)) :
    d.Rewritten d' place f data := by
  obtain ⟨hne, rfl⟩ := write_of_find h hfind
  refine ⟨?_, fun q hq ↦ ?_, rfl, rfl⟩
  · rw [lookup?_put hne, if_pos rfl]
  · rw [lookup?_put hne, if_neg hq]

namespace Store

variable {s : Store} {d d' : Disk} {place : Place} {f : Disk.File} {events : List Log.Event}

theorem rewritten_of_save (hfind : d.find s.path = .ok (place, .file f))
    (h : s.save d = ⟨.ok (), d', events⟩) :
    ∃ content, s.toText = .ok content ∧ d'.read s.path = .ok (Bytes.ofString content) ∧
      d.Rewritten d' place f (Bytes.ofString content) := by
  have hfolder := ensureFolder_of_find hfind
  have hsaves := save_saves s d
  rw [h] at hsaves
  cases hsaves with
  | done htext hensure hwrite =>
    -- No directory had to be made, so that the file is written on the disk as it was.
    rw [hfolder] at hensure
    cases hensure
    exact ⟨_, htext, Disk.read_write hwrite, Disk.rewritten_of_write hwrite hfind⟩

theorem rewritten_of_set (hfind : d.find s.path = .ok (place, .file f)) {logger : Logger}
    {arguments : List String} {key : Key} {text : String} {outcome : Outcome}
    (harguments : checkArguments arguments = .ok (key, text))
    (hne : (s.get? key.name).map Value.text ≠ some text)
    (h : (s.set logger d arguments).result = .ok outcome) :
    ∃ content, (s.put key.name (key.kind.coerce text)).toText = .ok content ∧
      (s.set logger d arguments).disk.read s.path = .ok (Bytes.ofString content) ∧
      d.Rewritten (s.set logger d arguments).disk place f (Bytes.ofString content) := by
  obtain ⟨next, hnext⟩ := Key.apply_of_check (checkArguments_eq_ok harguments) logger
  rw [set_of_ne harguments hne, update_of_apply hnext] at h ⊢
  cases hwrite : (s.put key.name (key.kind.coerce text)).write d with
  | mk result d' events =>
    rw [hwrite] at h
    cases result with
    | error e => cases h
    | ok _ =>
      have hsave := save_of_write_ok hwrite
      exact rewritten_of_save (s := s.put key.name (key.kind.coerce text)) hfind hsave

theorem path_of_loadOrCreate {env : Environment} {path : Path}
    (h : loadOrCreate env d path = ⟨.ok s, d', events⟩) : s.path = path := by
  cases hhas : d.has path with
  | true =>
    rw [loadOrCreate_present env hhas, Attempt.mk.injEq] at h
    obtain ⟨text, -, htext⟩ := load_eq_ok h.1
    exact ofText_path htext
  | false =>
    rw [(loadOrCreate_missing hhas h).1]
    rfl

theorem read_of_content {data : Bytes} (h : s.content d = .ok data) :
    d.read s.path = .ok data := by
  rw [content] at h
  split at h
  · next hread =>
    cases h
    exact hread
  · cases h

end Store

namespace Run

/-- The invocation wants another value for a setting in a file that can be loaded. -/
structure Alters (i : Invocation) (env : Environment) (d : Disk) (path : Path) (s : Store)
    (key : Key) (text : String) : Prop where
  command : ∃ arguments, i.command = .set arguments ∧
    Store.checkArguments arguments = .ok (key, text)
  loads : (Store.load env d path).result = .ok s
  differs : (s.get? key.name).map Value.text ≠ some text

variable {i : Invocation} {env : Environment} {logger : Logger} {d d' : Disk} {path : Path}
  {s : Store} {events : List Log.Event}

/-- What becomes of an invocation on a store that was opened, with what opening it has reported. -/
def running (i : Invocation) (env : Environment) (s : Store) (events : List Log.Event)
    (logger : Logger) (d : Disk) : Run :=
  let ran := command i.command (.ofNoColor i.noColor) env.output s (synchronized s logger) d
  { ran with
    lines := logger.lines (events ++ s.logLevel.2) ++
      (synchronized s logger).lines [.loadedFrom s.path] ++ ran.lines }

section

variable (i : Invocation) (env : Environment) (s : Store) (events : List Log.Event)
  (logger : Logger) (d : Disk)

theorem result_running : (running i env s events logger d).result =
    (command i.command (.ofNoColor i.noColor) env.output s (synchronized s logger) d).result := rfl

theorem output_running : (running i env s events logger d).output =
    (command i.command (.ofNoColor i.noColor) env.output s (synchronized s logger) d).output := rfl

theorem disk_running : (running i env s events logger d).disk =
    (command i.command (.ofNoColor i.noColor) env.output s (synchronized s logger) d).disk := rfl

end

theorem invocation_of_info (h : i.command = .info) (env : Environment) (logger : Logger)
    (d : Disk) : invocation i env logger d =
      ⟨.ok (), information (.ofNoColor i.noColor), [], logger, d⟩ := by
  simp only [invocation, Invocation.isStandalone, h, beq_self_eq_true, if_true]

theorem invocation_of_none (hinfo : i.command ≠ .info)
    (hpath : i.config.or env.settingsFile? = none) (logger : Logger) (d : Disk) :
    invocation i env logger d =
      ⟨.error (.configuration "HOME environment variable not set"), [], [], logger, d⟩ := by
  have hstandalone : i.isStandalone = false := beq_eq_false_iff_ne.2 hinfo
  simp only [invocation, hstandalone, hpath, Bool.false_eq_true, if_false]

theorem invocation_of_error (hinfo : i.command ≠ .info)
    (hpath : i.config.or env.settingsFile? = some path) {e : Error}
    (hload : Store.loadOrCreate env d path = ⟨.error e, d', events⟩) (logger : Logger) :
    invocation i env logger d = ⟨.error e, [], logger.lines events, logger, d'⟩ := by
  have hstandalone : i.isStandalone = false := beq_eq_false_iff_ne.2 hinfo
  simp only [invocation, hstandalone, hpath, hload, Bool.false_eq_true, if_false]

theorem invocation_of_ok (hinfo : i.command ≠ .info)
    (hpath : i.config.or env.settingsFile? = some path)
    (hload : Store.loadOrCreate env d path = ⟨.ok s, d', events⟩) (logger : Logger) :
    invocation i env logger d = running i env s events logger d' := by
  have hstandalone : i.isStandalone = false := beq_eq_false_iff_ne.2 hinfo
  simp only [invocation, hstandalone, hpath, hload, Bool.false_eq_true, if_false, running]

/-- All that an invocation can come to: it has no use for a file, or no directory is known where its
file could be, or the file cannot be opened, or the command runs on the store of the file. -/
inductive Invokes (i : Invocation) (env : Environment) (logger : Logger) (d : Disk) : Run → Prop
  | info : i.command = .info →
      Invokes i env logger d ⟨.ok (), information (.ofNoColor i.noColor), [], logger, d⟩
  | homeless : i.command ≠ .info → i.config.or env.settingsFile? = none →
      Invokes i env logger d
        ⟨.error (.configuration "HOME environment variable not set"), [], [], logger, d⟩
  | unopened {path : Path} {e : Error} {d' : Disk} {events : List Log.Event} :
      i.command ≠ .info → i.config.or env.settingsFile? = some path →
      Store.loadOrCreate env d path = ⟨.error e, d', events⟩ →
      Invokes i env logger d ⟨.error e, [], logger.lines events, logger, d'⟩
  | opened {path : Path} {s : Store} {d' : Disk} {events : List Log.Event} :
      i.command ≠ .info → i.config.or env.settingsFile? = some path →
      Store.loadOrCreate env d path = ⟨.ok s, d', events⟩ →
      Invokes i env logger d (running i env s events logger d')

theorem invocation_invokes (i : Invocation) (env : Environment) (logger : Logger) (d : Disk) :
    Invokes i env logger d (invocation i env logger d) := by
  by_cases hinfo : i.command = .info
  · rw [invocation_of_info hinfo]
    exact .info hinfo
  cases hpath : i.config.or env.settingsFile? with
  | none =>
    rw [invocation_of_none hinfo hpath]
    exact .homeless hinfo hpath
  | some path =>
    cases hload : Store.loadOrCreate env d path with
    | mk result d' events =>
      cases result with
      | error e =>
        rw [invocation_of_error hinfo hpath hload]
        exact .unopened hinfo hpath hload
      | ok s =>
        rw [invocation_of_ok hinfo hpath hload]
        exact .opened hinfo hpath hload

/-- All that a command can come to on a store. -/
inductive Ran (palette : Display.Palette) (limit? : Option Limit) (s : Store) (logger : Logger)
    (d : Disk) : Command → Run → Prop
  | printed {data : Bytes} : s.content d = .ok data →
      Ran palette limit? s logger d .print ⟨.ok (), printed data, [], logger, d⟩
  | stopped {data part : Bytes} {fault : Disk.Fault} : s.content d = .ok data →
      Limit.Stops limit? (Run.printed data) part fault → Ran palette limit? s logger d .print
        ⟨.error (.io "Failed to write configuration to stdout" fault), part, [], logger, d⟩
  | unreadable {e : Error} : s.content d = .error e →
      Ran palette limit? s logger d .print ⟨.error e, [], [], logger, d⟩
  | info : Ran palette limit? s logger d .info ⟨.ok (), information palette, [], logger, d⟩
  | viewed {key : Key} : Ran palette limit? s logger d (.view key)
      ⟨.ok (), line (Display.keyValue palette key.name
        (((s.get? key.name).map Value.text).getD "<not set>")),
        logger.lines [.viewing key.name s.path], logger, d⟩
  | changed {arguments : List String} {outcome : Outcome} :
      (s.set logger d arguments).result = .ok outcome → Ran palette limit? s logger d
        (.set arguments) ⟨.ok (), outcomeLine palette outcome,
          (s.set logger d arguments).logger.lines (s.set logger d arguments).events,
          (s.set logger d arguments).logger, (s.set logger d arguments).disk⟩
  | failed {arguments : List String} {e : Error} :
      (s.set logger d arguments).result = .error e → Ran palette limit? s logger d (.set arguments)
        ⟨.error e, [], (s.set logger d arguments).logger.lines (s.set logger d arguments).events,
          (s.set logger d arguments).logger, (s.set logger d arguments).disk⟩

section

variable (palette : Display.Palette) (limit? : Option Limit) (s : Store) (logger : Logger)
  (d : Disk)

theorem command_ran (c : Command) :
    Ran palette limit? s logger d c (command c palette limit? s logger d) := by
  cases c with
  | print =>
    rw [command]
    cases hcontent : s.content d with
    | error e => exact .unreadable hcontent
    | ok data =>
      cases hpass : Limit.pass limit? (printed data) with
      | mk part result =>
        cases result with
        | error fault =>
          simp only [hpass]
          exact .stopped hcontent (Limit.pass_eq_error_iff.1 hpass)
        | ok _ =>
          obtain rfl := Limit.eq_of_pass hpass
          simp only [hpass]
          exact .printed hcontent
  | info => exact .info
  | view key =>
    simp only [command, Store.view_name]
    exact .viewed
  | set arguments =>
    rw [command]
    cases hresult : (s.set logger d arguments).result with
    | ok outcome => exact .changed hresult
    | error e => exact .failed hresult

theorem disk_command_set (arguments : List String) :
    (command (.set arguments) palette limit? s logger d).disk =
      (s.set logger d arguments).disk := by
  rw [command]
  split <;> rfl

theorem result_command_set (arguments : List String) :
    (command (.set arguments) palette limit? s logger d).result =
      (s.set logger d arguments).result.map fun _ ↦ () := by
  rw [command]
  split
  · next houtcome =>
    rw [houtcome]
    rfl
  · next he =>
    rw [he]
    rfl

theorem disk_command_of_ne_set {c : Command} (h : ∀ arguments, c ≠ .set arguments) :
    (command c palette limit? s logger d).disk = d := by
  have hran := command_ran palette limit? s logger d c
  generalize command c palette limit? s logger d = ran at hran ⊢
  cases hran with
  | printed _ | stopped _ _ | unreadable _ | info | viewed => rfl
  | changed _ | failed _ => exact absurd rfl (h _)

end

theorem loadOrCreate_of_find {place : Place} {f : Disk.File} (env : Environment)
    (hfind : d.find path = .ok (place, .file f)) : Store.loadOrCreate env d path =
      ⟨(Store.load env d path).result, d, (Store.load env d path).events⟩ := by
  refine Store.loadOrCreate_present env ?_
  rw [Disk.has, hfind]
  rfl

theorem disk_invocation_of_find (hpath : i.config.or env.settingsFile? = some path)
    {place : Place} {f : Disk.File} (hfind : d.find path = .ok (place, .file f))
    (hnone : ¬∃ s key text, Alters i env d path s key text) (logger : Logger) :
    (invocation i env logger d).disk = d := by
  have hload := loadOrCreate_of_find env hfind
  by_cases hinfo : i.command = .info
  · rw [invocation_of_info hinfo]
  cases hresult : (Store.load env d path).result with
  | error e =>
    rw [hresult] at hload
    rw [invocation_of_error hinfo hpath hload]
  | ok s =>
    rw [hresult] at hload
    rw [invocation_of_ok hinfo hpath hload, disk_running]
    by_cases hset : ∃ arguments, i.command = .set arguments
    · obtain ⟨arguments, harguments⟩ := hset
      rw [harguments, disk_command_set]
      cases hcheck : Store.checkArguments arguments with
      | error fault => rw [Store.set_of_error hcheck]
      | ok found =>
        obtain ⟨key, text⟩ := found
        by_cases hsame : (s.get? key.name).map Value.text = some text
        · rw [Store.set_of_same hcheck hsame]
        · exact absurd ⟨s, key, text, ⟨arguments, harguments, hcheck⟩, hresult, hsame⟩ hnone
    · exact disk_command_of_ne_set _ _ _ _ _ (not_exists.1 hset)

theorem Alters.rewritten {key : Key} {text : String} (h : Alters i env d path s key text)
    (hpath : i.config.or env.settingsFile? = some path) {place : Place} {f : Disk.File}
    (hfind : d.find path = .ok (place, .file f))
    (hok : (invocation i env logger d).result = .ok ()) :
    ∃ content, (s.put key.name (key.kind.coerce text)).toText = .ok content ∧
      (invocation i env logger d).disk.read path = .ok (Bytes.ofString content) ∧
      d.Rewritten (invocation i env logger d).disk place f (Bytes.ofString content) := by
  obtain ⟨⟨arguments, hcommand, hcheck⟩, hload, hne⟩ := h
  have hinfo : i.command ≠ .info := by
    rw [hcommand]
    nofun
  have hopen := loadOrCreate_of_find env hfind
  rw [hload] at hopen
  have hspath := Store.path_of_loadOrCreate hopen
  rw [invocation_of_ok hinfo hpath hopen] at hok ⊢
  rw [result_running, hcommand, result_command_set] at hok
  rw [disk_running, hcommand, disk_command_set]
  subst hspath
  cases houtcome : (s.set (synchronized s logger) d arguments).result with
  | error e =>
    rw [houtcome] at hok
    cases hok
  | ok outcome => exact Store.rewritten_of_set hfind hcheck hne houtcome

theorem output_of_print (hprint : i.command = .print)
    (hok : (invocation i env logger d).result = .ok ()) :
    ∃ path data, i.config.or env.settingsFile? = some path ∧
      (invocation i env logger d).disk.read path = .ok data ∧
      (invocation i env logger d).output = 10 :: data ++ [10] := by
  have hinfo : i.command ≠ .info := by
    rw [hprint]
    nofun
  -- The file may have been created only now, so that nothing is known of it before.
  cases hpath : i.config.or env.settingsFile? with
  | none =>
    rw [invocation_of_none hinfo hpath] at hok
    cases hok
  | some path =>
    cases hload : Store.loadOrCreate env d path with
    | mk result d' events =>
      cases result with
      | error e =>
        rw [invocation_of_error hinfo hpath hload] at hok
        cases hok
      | ok s =>
        rw [invocation_of_ok hinfo hpath hload] at hok ⊢
        rw [result_running, hprint] at hok
        rw [output_running, disk_running, hprint]
        have hran :=
          command_ran (.ofNoColor i.noColor) env.output s (synchronized s logger) d' .print
        generalize command .print _ env.output s (synchronized s logger) d' = ran at hok hran ⊢
        cases hran with
        | stopped _ _ | unreadable _ => cases hok
        | @printed data hcontent =>
          have hread := Store.read_of_content hcontent
          rw [Store.path_of_loadOrCreate hload] at hread
          exact ⟨path, data, rfl, hread, rfl⟩

/-- The descriptions of the keys touch nothing. Where the file of the settings is there, nothing is
touched at all unless a value is altered, and then this file alone is written, with the text of the
store and the new value in it. What is printed is the file as it is in the end. -/
theorem invocation_frame (i : Invocation) (env : Environment) (logger : Logger) (d : Disk) :
    (i.command = .info → invocation i env logger d =
      ⟨.ok (), information (.ofNoColor i.noColor), [], logger, d⟩) ∧
    (∀ path place f, i.config.or env.settingsFile? = some path →
      d.find path = .ok (place, .file f) →
      ((¬∃ s key text, Alters i env d path s key text) → (invocation i env logger d).disk = d) ∧
      ∀ s key text, Alters i env d path s key text →
        (invocation i env logger d).result = .ok () →
        ∃ content, (s.put key.name (key.kind.coerce text)).toText = .ok content ∧
          (invocation i env logger d).disk.read path = .ok (Bytes.ofString content) ∧
          d.Rewritten (invocation i env logger d).disk place f (Bytes.ofString content)) ∧
    (i.command = .print → (invocation i env logger d).result = .ok () →
      ∃ path data, i.config.or env.settingsFile? = some path ∧
        (invocation i env logger d).disk.read path = .ok data ∧
        (invocation i env logger d).output = 10 :: data ++ [10]) := by
  refine ⟨fun hinfo ↦ invocation_of_info hinfo env logger d, fun path place f hpath hfind ↦
    ⟨fun hnone ↦ ?_, fun s key text halters hok ↦ ?_⟩, output_of_print⟩
  · exact disk_invocation_of_find hpath hfind hnone logger
  · exact halters.rewritten hpath hfind hok

section

open Session

def debugging : Invocation := ⟨some ⟨[99]⟩, false, .set toDebug⟩

theorem rewritten_toDebug :
    (invocation debugging {} .start (alone freshText false)).result = .ok () ∧
    ∃ content, freshDebug.toText = .ok content ∧
      (invocation debugging {} .start (alone freshText false)).disk.read ⟨[99]⟩ =
        .ok (Bytes.ofString content) := by
  have hsaved : Store.fresh.Saved (alone freshText false) := reachable_begun.sound.saved
  have hload := plain_fresh.load readsBack_fresh.1 hsaved {}
  have hpath : debugging.config.or (Environment.settingsFile? {}) = some ⟨[99]⟩ := rfl
  have hfind : (alone freshText false).find ⟨[99]⟩ =
      .ok ([[99]], .file { data := Bytes.ofString freshText }) := rfl
  have halters : Alters debugging {} (alone freshText false) ⟨[99]⟩ .fresh .logLevel "debug" :=
    ⟨⟨toDebug, rfl, checkArguments_toDebug⟩, hload, level_fresh⟩
  have hok : (invocation debugging {} .start (alone freshText false)).result = .ok () := by
    have hinfo : debugging.command ≠ .info := by decide
    have hopen := loadOrCreate_of_find {} hfind
    rw [hload] at hopen
    rw [invocation_of_ok hinfo hpath hopen, result_running, debugging, result_command_set,
      result_set_toDebug]
    rfl
  obtain ⟨content, htext, hread, -⟩ :=
    ((invocation_frame _ {} .start _).2.1 _ _ _ hpath hfind).2 _ _ _ halters hok
  exact ⟨hok, content, htext, hread⟩

end

end Run

end ConfigKeeper

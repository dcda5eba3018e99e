import ConfigKeeper.Proofs.Arguments
import ConfigKeeper.Proofs.BaseFolders
import ConfigKeeper.Proofs.Invocations
import ConfigKeeper.Proofs.Trails

namespace ConfigKeeper

open Log (Logger)

/-- Nothing has changed but at the places that a path leads through. -/
structure Disk.TouchedAlong (d d' : Disk) (p : Path) : Prop where
  here : d'.here = d.here
  limit : d'.limit? = d.limit?
  others : ∀ q, q ∉ p.stops d.here → d'.lookup? q = d.lookup? q

namespace Disk.TouchedAlong

variable {d d' d'' : Disk} {p : Path}

theorem refl (d : Disk) (p : Path) : d.TouchedAlong d p := ⟨rfl, rfl, fun _ _ ↦ rfl⟩

theorem trans (h : d.TouchedAlong d' p) (h' : d'.TouchedAlong d'' p) : d.TouchedAlong d'' p where
  here := h'.here.trans h.here
  limit := h'.limit.trans h.limit
  others q hq := (h'.others q (h.here ▸ hq)).trans (h.others q hq)

theorem of_openFile {place : Place} {f : File} (h : d.openFile p = .ok (place, f)) (g : File) :
    d.TouchedAlong (d.put place (.file g)) p where
  here := rfl
  limit := rfl
  others q hq := by
    have hne : q ≠ place := by
      rintro rfl
      exact hq (mem_stops_of_openFile h)
    rw [lookup?_put (vacant_of_openFile h).ne_nil, if_neg hne]

end Disk.TouchedAlong

namespace Store

variable {s : Store} {env : Environment} {d d' : Disk} {path : Path} {logger : Logger} {c : Change}

theorem touched_ensureFolder (s : Store) (d : Disk) :
    d.TouchedAlong (s.ensureFolder d).1 s.path where
  here := (grown_ensureFolder s d).here
  limit := (grown_ensureFolder s d).limit
  others _ hq := lookup?_ensureFolder hq

theorem touched_save (s : Store) (d : Disk) : d.TouchedAlong (s.save d).disk s.path := by
  have hfolder := touched_ensureFolder s d
  have hsaves := save_saves s d
  generalize s.save d = saving at hsaves ⊢
  cases hsaves with
  | clash _ => exact .refl d s.path
  | noFolder hensure | noFile hensure _ =>
    rw [hensure] at hfolder
    exact hfolder
  | stopped _ hensure hopen _ =>
    rw [hensure] at hfolder
    exact hfolder.trans (.of_openFile hopen _)
  | done _ hensure hwrite =>
    rw [hensure] at hfolder
    obtain ⟨place, f, hopen, -, rfl⟩ := Disk.write_cases hwrite
    exact hfolder.trans (.of_openFile hopen _)

theorem disk_write (s : Store) (d : Disk) : (s.write d).disk = (s.save d).disk := by
  rw [write]
  split
  · next hsave => rw [hsave]
  · rfl

theorem touched_write (s : Store) (d : Disk) : d.TouchedAlong (s.write d).disk s.path :=
  disk_write s d ▸ touched_save s d

theorem Makes.touched (h : Makes s logger d c) : d.TouchedAlong c.disk s.path := by
  cases h with
  | rejected _ | unchanged _ => exact .refl d s.path
  | @failed key text _ _ _ _ _ _ hwrite | @updated key text _ _ _ _ hwrite =>
    have htouched := touched_write (s.put key.name (key.kind.coerce text)) d
    rw [hwrite] at htouched
    exact htouched

theorem touched_loadOrCreate (env : Environment) (d : Disk) (path : Path) :
    d.TouchedAlong (loadOrCreate env d path).disk path := by
  cases hhas : d.has path with
  | true =>
    rw [loadOrCreate_present env hhas]
    exact .refl d path
  | false =>
    have hsaved : d.TouchedAlong ((initialAt env d path).save d).disk path := touched_save _ d
    rw [loadOrCreate, hhas]
    simp only [Bool.false_eq_true, if_false]
    split
    all_goals
      next hsave =>
        rw [hsave] at hsaved
        exact hsaved

theorem readText_of_loadOrCreate {events : List Log.Event}
    (h : loadOrCreate env d path = ⟨.ok s, d', events⟩) : ∃ text, d'.readText path = .ok text := by
  cases hhas : d.has path with
  | true =>
    rw [loadOrCreate_present env hhas, Attempt.mk.injEq] at h
    obtain ⟨hload, rfl, -⟩ := h
    obtain ⟨text, hread, -⟩ := load_eq_ok hload
    exact ⟨text, hread⟩
  | false =>
    have hpath := path_of_loadOrCreate h
    obtain ⟨-, text, -, hread⟩ := loadOrCreate_missing hhas h
    exact ⟨text, hpath ▸ hread⟩

theorem Makes.readText (h : Makes s logger d c) {outcome : Outcome} (hok : c.result = .ok outcome)
    {text : String} (hread : d.readText s.path = .ok text) :
    ∃ text, c.disk.readText s.path = .ok text := by
  cases h with
  | rejected _ | failed _ _ _ _ => cases hok
  | unchanged _ => exact ⟨text, hread⟩
  | updated _ hwrite =>
    obtain ⟨content, -, hcontent⟩ := write_ok hwrite
    exact ⟨content, hcontent⟩

end Store

namespace Run

variable {i : Invocation} {env : Environment} {logger : Logger} {d : Disk} {path : Path}

theorem touched_command (c : Command) (palette : Display.Palette) (limit? : Option Limit)
    (s : Store) (logger : Logger) (d : Disk) :
    d.TouchedAlong (command c palette limit? s logger d).disk s.path := by
  have hran := command_ran palette limit? s logger d c
  generalize command c palette limit? s logger d = ran at hran ⊢
  cases hran with
  | printed _ | stopped _ _ | unreadable _ | info | viewed => exact .refl d s.path
  | @changed arguments _ _ | @failed arguments _ _ =>
    exact (Store.set_makes s logger d arguments).touched

theorem readText_command {c : Command} {palette : Display.Palette} {limit? : Option Limit}
    {s : Store} (hok : (command c palette limit? s logger d).result = .ok ()) {text : String}
    (hread : d.readText s.path = .ok text) :
    ∃ text, (command c palette limit? s logger d).disk.readText s.path = .ok text := by
  have hran := command_ran palette limit? s logger d c
  generalize command c palette limit? s logger d = ran at hok hran ⊢
  cases hran with
  | printed _ | info | viewed => exact ⟨text, hread⟩
  | stopped _ _ | unreadable _ | failed _ => cases hok
  | @changed arguments _ houtcome =>
    exact (Store.set_makes s logger d arguments).readText houtcome hread

/-- What an invocation uses: it does the same as if that file had been named, touches nothing away
from the path to it, and if it succeeds then a text is in it. Where there is none it fails at once. -/
inductive Uses (i : Invocation) (env : Environment) : Option Path → Prop
  | file {path : Path} :
      (∀ logger d, invocation i env logger d =
        invocation { i with config := some path } env logger d) →
      (∀ logger (d : Disk), d.TouchedAlong (invocation i env logger d).disk path) →
      (∀ logger d, (invocation i env logger d).result = .ok () →
        ∃ text, (invocation i env logger d).disk.readText path = .ok text) →
      Uses i env (some path)
  | nothing :
      (∀ logger d, invocation i env logger d =
        ⟨.error (.configuration "HOME environment variable not set"), [], [], logger, d⟩) →
      Uses i env none

theorem invocation_named (hpath : i.config.or env.settingsFile? = some path) (logger : Logger)
    (d : Disk) : invocation i env logger d =
      invocation { i with config := some path } env logger d := by
  simp only [invocation, Invocation.isStandalone, hpath, Option.some_or]
  rfl

theorem touched_invocation (hinfo : i.command ≠ .info)
    (hpath : i.config.or env.settingsFile? = some path) (logger : Logger) (d : Disk) :
    d.TouchedAlong (invocation i env logger d).disk path := by
  have htouched := Store.touched_loadOrCreate env d path
  cases hload : Store.loadOrCreate env d path with
  | mk result d' events =>
    rw [hload] at htouched
    cases result with
    | error e =>
      rw [invocation_of_error hinfo hpath hload]
      exact htouched
    | ok s =>
      have hran := touched_command i.command (.ofNoColor i.noColor) env.output s
        (synchronized s logger) d'
      rw [Store.path_of_loadOrCreate hload] at hran
      rw [invocation_of_ok hinfo hpath hload, disk_running]
      exact htouched.trans hran

theorem readText_invocation (hinfo : i.command ≠ .info)
    (hpath : i.config.or env.settingsFile? = some path)
    (hok : (invocation i env logger d).result = .ok ()) :
    ∃ text, (invocation i env logger d).disk.readText path = .ok text := by
  cases hload : Store.loadOrCreate env d path with
  | mk result d' events =>
    cases result with
    | error e =>
      rw [invocation_of_error hinfo hpath hload] at hok
      cases hok
    | ok s =>
      obtain ⟨text, hread⟩ := Store.readText_of_loadOrCreate hload
      have hspath := Store.path_of_loadOrCreate hload
      subst hspath
      rw [invocation_of_ok hinfo hpath hload, result_running] at hok
      rw [invocation_of_ok hinfo hpath hload, disk_running]
      exact readText_command hok hread

theorem invocation_uses (hinfo : i.command ≠ .info) (env : Environment) :
    Uses i env (i.config.or env.settingsFile?) := by
  cases hpath : i.config.or env.settingsFile? with
  | none => exact .nothing (invocation_of_none hinfo hpath)
  | some path =>
    exact .file (invocation_named hpath) (touched_invocation hinfo hpath)
      fun _ _ ↦ readText_invocation hinfo hpath

theorem or_eq_or_iff {named file ruled : Option Path} :
    named.or file = named.or ruled ↔ (named = none → file = ruled) := by
  cases named <;> simp

theorem ruled_iff (i : Invocation) (env : Environment) :
    i.config.or env.settingsFile? = i.config.or env.ruledFile? ↔
      (i.config = none → env.Orderly) := by
  rw [or_eq_or_iff]
  refine imp_congr_right fun _ ↦ ⟨fun h ↦ ?_, Environment.settingsFile?_of_orderly⟩
  exact env.names_settingsFile?_iff.1 (h ▸ rfl)

theorem names_ne_of_not_ruled (h : i.config.or env.settingsFile? ≠ i.config.or env.ruledFile?) :
    (i.config.or env.settingsFile?).map Path.names ≠
      (i.config.or env.ruledFile?).map Path.names := by
  rw [ne_eq, ruled_iff, Classical.not_imp] at h
  obtain ⟨hnone, hnot⟩ := h
  rw [hnone, Option.none_or, Option.none_or, ne_eq, env.names_settingsFile?_iff]
  exact hnot

/-- The file that the command line names comes before the one that the environment names, and both
before that of the directory of configurations. The last one is the one of the rule just if no
directory is in its way that is empty or is not text; otherwise it has other names. The descriptions
of the keys have no use for any. -/
theorem invocation_locates {arguments : List Bytes}
    (hparse : CommandLine.parse env arguments = .ok i) :
    (∃ j, CommandLine.parse { env with configFile := none } arguments = .ok j ∧
      i = { j with config := j.config.or (env.configFile.map Path.mk) }) ∧
    (i.command = .info → ∀ logger d, invocation i env logger d =
      ⟨.ok (), information (.ofNoColor i.noColor), [], logger, d⟩) ∧
    (i.command ≠ .info → Uses i env (i.config.or env.settingsFile?)) ∧
    (i.config = none → env.Locates (i.config.or env.settingsFile?)) ∧
    (i.config.or env.settingsFile? = i.config.or env.ruledFile? ↔
      (i.config = none → env.Orderly)) ∧
    (i.config.or env.settingsFile? ≠ i.config.or env.ruledFile? →
      (i.config.or env.settingsFile?).map Path.names ≠
        (i.config.or env.ruledFile?).map Path.names) := by
  refine ⟨CommandLine.parse_of_configFile hparse, fun hinfo ↦ invocation_of_info hinfo env,
    fun hinfo ↦ invocation_uses hinfo env, fun hnone ↦ ?_, ruled_iff i env, names_ne_of_not_ruled⟩
  rw [hnone, Option.none_or]
  exact env.settingsFile?_locates

/-- The directory of configurations is given and empty. -/
def emptyConfigHome : Environment := { configHome := some [], home := some [104] }

theorem locates_emptyConfigHome :
    CommandLine.parse emptyConfigHome (["config", "print"].map Bytes.ofString) =
      .ok { command := .print } ∧
    Uses { command := .print } emptyConfigHome
      (some (.ofString "ephemeral-iam/config.yaml")) ∧
    emptyConfigHome.ruledFile? = some (.ofString "h/.config/ephemeral-iam/config.yaml") ∧
    ¬emptyConfigHome.Orderly := by
  have hparse : CommandLine.parse emptyConfigHome (["config", "print"].map Bytes.ofString) =
      .ok { command := .print } := by decide
  have hinfo : Command.print ≠ .info := by decide
  have hused : emptyConfigHome.settingsFile? = some (.ofString "ephemeral-iam/config.yaml") := by
    decide
  have hruled : emptyConfigHome.ruledFile? =
      some (.ofString "h/.config/ephemeral-iam/config.yaml") := by decide
  obtain ⟨-, -, huses, -, hiff, -⟩ := invocation_locates hparse
  refine ⟨hparse, hused ▸ huses hinfo, hruled, fun horderly ↦ ?_⟩
  have hsame := hiff.2 fun _ ↦ horderly
  rw [hused, hruled] at hsame
  revert hsame
  decide

end Run

end ConfigKeeper

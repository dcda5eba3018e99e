import ConfigKeeper.Proofs.Creation
import ConfigKeeper.Proofs.Invocations
import ConfigKeeper.Proofs.Verdicts

namespace ConfigKeeper

open Log (Logger)

namespace Store

variable {env : Environment} {d d' : Disk} {path : Path} {e : Error} {events : List Log.Event}

theorem ne_arguments_of_load (h : (load env d path).result = .error e) (f : ArgumentFault) :
    e ≠ .arguments f := by
  rintro rfl
  rw [load] at h
  cases hread : d.readText path with
  | error fault =>
    simp only [hread] at h
    cases h
  | ok text =>
    simp only [hread, ofText] at h
    cases hnode : Yaml.read text with
    | none =>
      simp only [hnode] at h
      cases h
    | some n =>
      simp only [hnode] at h
      cases n with
      | mapping pairs =>
        rw [ofNode, withPairs_result] at h
        split at h <;> cases h
      | null | bool _ | number _ | string _ | sequence _ | tagged _ _ => cases h

theorem ne_arguments_of_loadOrCreate (h : loadOrCreate env d path = ⟨.error e, d', events⟩)
    (f : ArgumentFault) : e ≠ .arguments f := by
  cases hhas : d.has path with
  | true =>
    rw [loadOrCreate_present env hhas, Attempt.mk.injEq] at h
    exact ne_arguments_of_load h.1 f
  | false =>
    obtain ⟨cause, -, rfl, -⟩ := save_of_loadOrCreate_error hhas h
    nofun

end Store

namespace Run

variable {i : Invocation} {env : Environment} {logger : Logger} {d d' : Disk} {path : Path}
  {s : Store} {events : List Log.Event} {f : ArgumentFault}

/-- Only the arguments of a change are ever refused, and it is then not made. -/
theorem set_of_command_error {c : Command} {palette : Display.Palette} {limit? : Option Limit}
    (h : (command c palette limit? s logger d).result = .error (.arguments f)) :
    ∃ arguments, c = .set arguments ∧ Store.checkArguments arguments = .error f ∧
      (command c palette limit? s logger d).disk = d := by
  have hran := command_ran palette limit? s logger d c
  generalize command c palette limit? s logger d = ran at h hran ⊢
  cases hran with
  | printed _ | stopped _ _ | info | viewed | changed _ => cases h
  | unreadable hcontent =>
    cases h
    rw [Store.content] at hcontent
    split at hcontent <;> cases hcontent
  | @failed arguments e hresult =>
    cases h
    have hverdict := Store.verdict_set s logger d arguments
    rw [Store.Verdict, hresult] at hverdict
    exact ⟨arguments, rfl, hverdict.1, hverdict.2.disk⟩

theorem opened_of_invalidArguments
    (h : (invocation i env logger d).result = .error (.arguments f)) :
    ∃ arguments path s events, i.command = .set arguments ∧
      Store.checkArguments arguments = .error f ∧ i.config.or env.settingsFile? = some path ∧
      Store.loadOrCreate env d path = ⟨.ok s, (invocation i env logger d).disk, events⟩ := by
  have hinvokes := invocation_invokes i env logger d
  generalize invocation i env logger d = ran at h hinvokes ⊢
  cases hinvokes with
  | info hinfo => cases h
  | homeless hinfo hpath => cases h
  | unopened hinfo hpath hload =>
    cases h
    exact absurd rfl (Store.ne_arguments_of_loadOrCreate hload f)
  | @opened path s d' events hinfo hpath hload =>
    rw [result_running] at h
    obtain ⟨arguments, hcommand, hcheck, hdisk⟩ := set_of_command_error h
    refine ⟨arguments, path, s, events, hcommand, hcheck, hpath, ?_⟩
    rw [disk_running, hdisk, hload]

theorem invocation_of_refused {arguments : List String} (hcommand : i.command = .set arguments)
    (hcheck : Store.checkArguments arguments = .error f)
    (hpath : i.config.or env.settingsFile? = some path)
    (hload : Store.loadOrCreate env d path = ⟨.ok s, d', events⟩) (logger : Logger) :
    (invocation i env logger d).result = .error (.arguments f) ∧
      (invocation i env logger d).disk = d' := by
  have hinfo : i.command ≠ .info := by
    rw [hcommand]
    nofun
  rw [invocation_of_ok hinfo hpath hload, result_running, disk_running, hcommand,
    result_command_set, disk_command_set, Store.set_of_error hcheck]
  exact ⟨rfl, rfl⟩

/-- If anything is at the path of the settings, refused arguments leave the disk as it was. If
nothing is there, the file that was written before they were looked at stays: it says what no file
means, and besides it there are only the directories on the way to it that were missing. -/
theorem disk_of_invalidArguments
    (h : (invocation i env logger d).result = .error (.arguments f)) :
    ∃ arguments path, i.command = .set arguments ∧ Store.checkArguments arguments = .error f ∧
      i.config.or env.settingsFile? = some path ∧
      (d.has path = true → (invocation i env logger d).disk = d) ∧
      (d.has path = false → ∃ content place,
        (Store.initialAt env d path).toText = .ok content ∧
        d.Created (invocation i env logger d).disk path place (Bytes.ofString content)) := by
  obtain ⟨arguments, path, s, events, hcommand, hcheck, hpath, hload⟩ :=
    opened_of_invalidArguments h
  refine ⟨arguments, path, hcommand, hcheck, hpath, fun hhas ↦ ?_, fun hnone ↦ ?_⟩
  · rw [Store.loadOrCreate_present env hhas, Attempt.mk.injEq] at hload
    exact hload.2.1.symm
  · obtain ⟨rfl, content, place, htext, hcreated⟩ := Store.created_of_loadOrCreate hnone hload
    exact ⟨content, place, htext, hcreated⟩

section

open Session

def misspelt : Invocation := ⟨some ⟨[99]⟩, false, .set ["no.such.key", "1"]⟩

/-- The key is unknown, and still the file is there afterwards. -/
theorem file_of_misspelt :
    (invocation misspelt {} .start ⟨[], []⟩).result =
      .error (.arguments (.unknownKey "no.such.key")) ∧
    Disk.lookup? ⟨[], []⟩ [[99]] = none ∧
    (invocation misspelt {} .start ⟨[], []⟩).disk.lookup? [[99]] =
      some (.file { data := Bytes.ofString freshText }) := by
  have hcheck : Store.checkArguments ["no.such.key", "1"] =
      .error (.unknownKey "no.such.key") := by decide
  have hpath : misspelt.config.or (Environment.settingsFile? {}) = some ⟨[99]⟩ := rfl
  obtain ⟨hresult, hdisk⟩ := invocation_of_refused rfl hcheck hpath loadOrCreate_fresh .start
  rw [hdisk]
  exact ⟨hresult, by decide, rfl⟩

def halfSaid : Invocation := ⟨some ⟨[99]⟩, false, .set ["logging.level"]⟩

theorem disk_of_halfSaid :
    (invocation halfSaid {} .start ⟨[], []⟩).result = .error (.arguments .arity) ∧
    (invocation halfSaid {} .start (alone freshText true)).result = .error (.arguments .arity) ∧
    (invocation halfSaid {} .start (alone freshText true)).disk = alone freshText true ∧
    ∃ content place, (Store.initialAt {} ⟨[], []⟩ ⟨[99]⟩).toText = .ok content ∧
      Disk.Created ⟨[], []⟩ (invocation halfSaid {} .start ⟨[], []⟩).disk ⟨[99]⟩ place
        (Bytes.ofString content) := by
  have hcheck : Store.checkArguments ["logging.level"] = .error .arity := by decide
  have hpath : halfSaid.config.or (Environment.settingsFile? {}) = some ⟨[99]⟩ := rfl
  have hnew := (invocation_of_refused rfl hcheck hpath loadOrCreate_fresh .start).1
  have hold := (invocation_of_refused rfl hcheck hpath (loadOrCreate_alone {} true) .start).1
  obtain ⟨_, path, -, -, hpath', hthere, -⟩ := disk_of_invalidArguments hold
  obtain ⟨_, path', -, -, hpath'', -, hmissing⟩ := disk_of_invalidArguments hnew
  cases hpath'
  cases hpath''
  exact ⟨hnew, hold, hthere rfl, hmissing rfl⟩

end

end Run

end ConfigKeeper

import ConfigKeeper.Proofs.Processes

namespace ConfigKeeper

open Log (Logger)

/-- The output works at the level and in the format of the logger. -/
def Log.Logger.InForce (l : Logger) : Prop :=
  ∀ o, l.output = some o → o = ⟨l.level.filter, l.format⟩

theorem Key.Steers.inForce {key : Key} {text : String} {logger next : Logger}
    (h : key.Steers text logger next) (hl : logger.InForce) : next.InForce := by
  intro o ho
  obtain ⟨hlevel, hformat, houtput⟩ := h
  rw [houtput, Option.map_eq_some_iff] at ho
  obtain ⟨old, hold, rfl⟩ := ho
  rw [hl old hold, Log.Output.mk.injEq]
  refine ⟨?_, ?_⟩
  · split at hlevel
    · next hkey => rw [if_pos hkey]
    · next hkey => rw [if_neg hkey, hlevel]
  · split at hformat
    · next hkey => rw [if_pos hkey]
    · next hkey => rw [if_neg hkey, hformat]

theorem Key.Steers.isAttached {key : Key} {text : String} {logger next : Logger}
    (h : key.Steers text logger next) : next.isAttached = logger.isAttached := by
  rw [Logger.isAttached, h.output, Option.isSome_map]
  rfl

namespace Store

open Session (alone freshText toDebug freshDebug store_set_toDebug result_set_toDebug
  loadOrCreate_fresh)

/-- The ways to come by a store. -/
inductive Origin : Store → Prop
  | initial (env : Environment) (d : Disk) (path : Path) : Origin (initialAt env d path)
  | text {env : Environment} {d : Disk} {path : Path} {text : String} {s : Store} :
      (ofText env d path text).result = .ok s → Origin s
  | file {env : Environment} {d : Disk} {path : Path} {s : Store} :
      (load env d path).result = .ok s → Origin s
  | path {env : Environment} {d : Disk} {path : Path} {s : Store} :
      (loadOrCreate env d path).result = .ok s → Origin s

/-- What a store and its logger can become by changes, each of them on any disk at all. -/
inductive Evolves (s : Store) (logger : Logger) : Store → Logger → Prop
  | refl : Evolves s logger s logger
  | set {t : Store} {l : Logger} (d : Disk) (arguments : List String) : Evolves s logger t l →
      Evolves s logger (t.set l d arguments).store (t.set l d arguments).logger

variable {s t : Store} {logger l : Logger} {d : Disk} {c : Change}

theorem Origin.coherent (h : Origin s) : s.Coherent := by
  cases h with
  | initial env d path => exact coherent_initialAt env d path
  | text h => exact coherent_of_ofText h
  | file h => exact coherent_of_load h
  | @path env d path _ h =>
    cases hhas : d.has path with
    | true =>
      rw [loadOrCreate_present env hhas] at h
      exact coherent_of_load h
    | false =>
      cases hcreate : loadOrCreate env d path with
      | mk result d' events =>
        rw [hcreate] at h
        cases h
        rw [(loadOrCreate_missing hhas hcreate).1]
        exact coherent_initialAt env d path

theorem Evolves.coherent (h : Evolves s logger t l) (hs : s.Coherent) : t.Coherent := by
  induction h with
  | refl => exact hs
  | set d arguments _ ih => exact (set_makes _ _ d arguments).coherent ih

theorem Coherent.get?_name (hs : s.Coherent) (key : Key) : ∃ v, s.get? key.name = some v := by
  have hkey := hs.known key.name (List.mem_map_of_mem key.mem_all)
  exact Option.isSome_iff_exists.1 (KeyMap.mem_keys_iff.1 hkey)

theorem view_name (s : Store) (key : Key) : s.view key.name = .ok (s.get? key.name) := by
  simp only [Store.view, Key.find, Key.named?_name]

theorem Coherent.toText (hs : s.Coherent) : ∃ text, s.toText = .ok text :=
  toText_of_apart hs.apart

theorem Coherent.fault_of_write (hs : s.Coherent) {e : Error} (h : (s.write d).result = .error e) :
    ∃ context fault,
      e = .persistence "Failed to write updated configuration" (.io context fault) := by
  obtain ⟨text, htext⟩ := hs.toText
  cases hwrite : s.write d with
  | mk result d' events =>
    rw [hwrite] at h
    cases h
    obtain ⟨cause, rfl, hsave⟩ := save_of_write_error hwrite
    have hsaves := save_saves s d
    rw [hsave] at hsaves
    cases hsaves with
    | clash hclash =>
      rw [htext] at hclash
      cases hclash
    | noFolder _ => exact ⟨_, _, rfl⟩
    | noFile _ _ => exact ⟨_, _, rfl⟩
    | stopped _ _ _ _ => exact ⟨_, _, rfl⟩

theorem Coherent.run_view (hs : s.Coherent) (key : Key) (palette : Display.Palette)
    (limit? : Option Limit) (logger : Logger) (d : Disk) : ∃ v, s.get? key.name = some v ∧
      (Run.command (.view key) palette limit? s logger d).result = .ok () ∧
      (Run.command (.view key) palette limit? s logger d).output =
        Run.line (Display.keyValue palette key.name v.text) := by
  obtain ⟨v, hv⟩ := hs.get?_name key
  refine ⟨v, hv, ?_, ?_⟩
  · simp only [Run.command, view_name]
  · simp only [Run.command, view_name, hv, Option.map_some, Option.getD_some]

/-- At any time every known key has a value and shows it, all keys are in small letters and none of
them lies under another, and so the store has a text and only the disk can keep it from being
written. -/
theorem Evolves.well_formed (hs : Origin s) (h : Evolves s logger t l) :
    (∀ name ∈ Key.names, ∃ v, t.view name = .ok (some v)) ∧
    (∀ key palette limit? logger' d, ∃ v, t.get? key.name = some v ∧
      (Run.command (.view key) palette limit? t logger' d).result = .ok () ∧
      (Run.command (.view key) palette limit? t logger' d).output =
        Run.line (Display.keyValue palette key.name v.text)) ∧
    (∀ k ∈ t.values.keys, Text.lower k = k) ∧
    (∀ k ∈ t.values.keys, ∀ k' ∈ t.values.keys, ¬begins (k ++ ".") k') ∧
    (∃ text, t.toText = .ok text) ∧
    ∀ d e, (t.write d).result = .error e → ∃ context fault,
      e = .persistence "Failed to write updated configuration" (.io context fault) := by
  have ht := h.coherent hs.coherent
  refine ⟨fun name hname ↦ ?_, fun key ↦ ht.run_view key, fun k hk ↦ (ht.small k hk).lower_eq,
    ht.apart, ht.toText, fun d e he ↦ ht.fault_of_write he⟩
  obtain ⟨key, -, rfl⟩ := List.mem_map.1 hname
  obtain ⟨v, hv⟩ := ht.get?_name key
  exact ⟨v, by rw [view_name, hv]⟩

theorem well_formed_toDebug :
    (fresh.set .start (alone freshText true) toDebug).result =
      .error (.persistence "Failed to write updated configuration"
        (.io "Failed to write configuration file" .accessDenied)) ∧
    (∃ v, freshDebug.view "logging.level" = .ok (some v)) ∧
    ∃ text, freshDebug.toText = .ok text := by
  have horigin : Origin fresh := .path (congrArg Attempt.result loadOrCreate_fresh)
  have hevolves : Evolves fresh .start _ _ := .set (alone freshText true) toDebug .refl
  obtain ⟨hview, -, -, -, htext, -⟩ := Evolves.well_formed horigin hevolves
  rw [store_set_toDebug] at hview htext
  exact ⟨result_set_toDebug .start freshText true, hview _ (by decide), htext⟩

/-- The logger is set as the store says, and its output with it. -/
structure Governs (s : Store) (logger l : Logger) : Prop where
  inStep : s.InStep l
  inForce : l.InForce
  attached : l.isAttached = logger.isAttached

theorem governs_synchronized (s : Store) (logger : Logger) :
    s.Governs logger (Run.synchronized s logger) where
  inStep := inStep_synchronized s logger
  inForce o ho := by
    simp only [Run.synchronized, Logger.setFormat, Logger.setLevel, Option.map_map,
      Option.map_eq_some_iff] at ho
    obtain ⟨old, -, rfl⟩ := ho
    rfl
  attached := by
    simp only [Run.synchronized, Logger.setFormat, Logger.setLevel, Logger.isAttached,
      Option.isSome_map]

theorem Governs.put (hs : s.Governs logger l) {key : Key} {text : String} {next : Logger}
    (h : key.apply text l = .ok next) :
    (s.put key.name (key.kind.coerce text)).Governs logger next where
  inStep := hs.inStep.put h
  inForce := (Key.steers_of_apply h).inForce hs.inForce
  attached := (Key.steers_of_apply h).isAttached.trans hs.attached

theorem Makes.governs (h : Makes s l d c) (hs : s.Governs logger l) :
    c.store.Governs logger c.logger := by
  cases h with
  | rejected f => exact hs
  | unchanged key => exact hs
  | failed context cause happly _ => exact hs.put happly
  | updated happly _ => exact hs.put happly

/-- A logger that was set as a store says stays in step with it, and so does the output that it is
attached to. -/
theorem Evolves.logger_in_step (h : Evolves s (Run.synchronized s logger) t l) :
    l.level = t.logLevel.1 ∧ l.format = t.logFormat ∧ l.isAttached = logger.isAttached ∧
      ∀ o, l.output = some o → o.filter = t.logLevel.1.filter ∧ o.shape = t.logFormat := by
  have hgoverns : t.Governs logger l := by
    induction h with
    | refl => exact governs_synchronized s logger
    | set d arguments _ ih => exact (set_makes _ _ d arguments).governs ih
  obtain ⟨⟨hlevel, hformat⟩, hforce, hattached⟩ := hgoverns
  refine ⟨hlevel, hformat, hattached, fun o ho ↦ ?_⟩
  rw [hforce o ho, hlevel, hformat]
  exact ⟨rfl, rfl⟩

theorem in_step_toDebug :
    let c := fresh.set (Run.synchronized fresh .start) (alone freshText true) toDebug
    c.result = .error (.persistence "Failed to write updated configuration"
      (.io "Failed to write configuration file" .accessDenied)) ∧
    c.logger.level = .debug ∧ c.logger.isAttached = true ∧
      ∀ o, c.logger.output = some o → o.filter = .debug ∧ o.shape = .text := by
  intro c
  have hevolves : Evolves fresh (Run.synchronized fresh .start) c.store c.logger :=
    .set (alone freshText true) toDebug .refl
  obtain ⟨hlevel, -, hattached, houtput⟩ := Evolves.logger_in_step hevolves
  have hstore : c.store = freshDebug := store_set_toDebug _ _
  have hdebug : freshDebug.logLevel.1 = .debug := by decide
  have htext : freshDebug.logFormat = .text := by decide
  rw [hstore, hdebug] at hlevel
  rw [hstore, hdebug, htext] at houtput
  exact ⟨result_set_toDebug _ freshText true, hlevel, hattached, houtput⟩

end Store

end ConfigKeeper

import ConfigKeeper.Proofs.Changes
import ConfigKeeper.Proofs.Reloading
import ConfigKeeper.Proofs.Resaving

namespace ConfigKeeper

open Log (Logger)

/-- What a session has in memory and on the disk, the store that it wrote last, and whether a write
has failed since. -/
structure Session where
  store : Store
  logger : Logger
  disk : Disk
  written : Store
  pending : Bool

namespace Session

def after (σ : Session) (c : Change) : Session :=
  match c.result with
  | .ok (.updated _ _ _) => ⟨c.store, c.logger, c.disk, c.store, false⟩
  | .error (.persistence _ _) => ⟨c.store, c.logger, c.disk, σ.written, true⟩
  | _ => ⟨c.store, c.logger, c.disk, σ.written, σ.pending⟩

def set (σ : Session) (arguments : List String) : Change :=
  σ.store.set σ.logger σ.disk arguments

/-- What can happen to a session on the file at a path. -/
inductive Step (path : Path) (σ : Session) : Session → Prop
  | change {outcome : Outcome} (arguments : List String) :
      (σ.set arguments).result = .ok outcome → Step path σ (σ.after (σ.set arguments))
  /-- A change that cannot be made, in whatever state the disk is, leaves the file as it was. -/
  | fail {d d' : Disk} {e : Error} (arguments : List String) :
      (σ.store.set σ.logger d arguments).result = .error e →
      d'.readText path = σ.disk.readText path →
      Step path σ { σ.after (σ.store.set σ.logger d arguments) with disk := d' }
  /-- The rest of the disk is not the session's own. -/
  | elsewhere {d : Disk} : d.readText path = σ.disk.readText path →
      Step path σ { σ with disk := d }

inductive Reachable (env : Environment) (path : Path) : Session → Prop
  | created {d d' : Disk} {s : Store} {events : List Log.Event} (logger : Logger) :
      d.has path = false → Store.loadOrCreate env d path = ⟨.ok s, d', events⟩ →
      Reachable env path ⟨s, logger, d', s, false⟩
  | step {σ τ : Session} : Reachable env path σ → Step path σ τ → Reachable env path τ

end Session

namespace Store

/-- A store of the file at a path that has the known keys and no others. -/
structure Plain (path : Path) (s : Store) : Prop where
  coherent : s.Coherent
  path : s.path = path
  keys : ∀ k ∈ s.values.keys, k ∈ Key.names

theorem readable_name (key : Key) : Readable key.name := by
  refine ⟨not_begins_name key, ?_⟩
  cases key <;> decide

theorem Plain.readable {path : Path} {s : Store} (h : s.Plain path) :
    ∀ k ∈ s.values.keys, Readable k := by
  intro k hk
  obtain ⟨key, -, rfl⟩ := List.mem_map.1 (h.keys k hk)
  exact readable_name key

theorem Plain.load {path : Path} {s : Store} {d : Disk} (h : s.Plain path) (hback : s.ReadsBack)
    (hsaved : s.Saved d) (env : Environment) : (load env d path).result = .ok s := by
  have hload := h.coherent.load h.readable hback hsaved env
  rw [h.path] at hload
  exact hload

theorem plain_initialAt (env : Environment) (d : Disk) (path : Path) :
    (initialAt env d path).Plain path where
  coherent := coherent_initialAt env d path
  path := rfl
  keys _ hk := mem_keys_initialValues.1 hk

theorem Makes.plain {path : Path} {s : Store} {logger : Logger} {d : Disk} {c : Change}
    (h : Makes s logger d c) (hs : s.Plain path) : c.store.Plain path where
  coherent := h.coherent hs.coherent
  path := h.path.trans hs.path
  keys k hk := hs.keys k ((h.mem_keys hs.coherent).1 hk)

/-- Where the file of a store is there and can be filled, only a lock keeps a change from success.
-/
theorem Coherent.result_set {s : Store} (hs : s.Coherent) {d : Disk} {place : Place}
    {f : Disk.File} (hroom : d.limit? = none) (hfind : d.find s.path = .ok (place, .file f))
    {arguments : List String} {key : Key} {text : String}
    (harguments : checkArguments arguments = .ok (key, text))
    (hne : (s.get? key.name).map Value.text ≠ some text) (logger : Logger) :
    (s.set logger d arguments).result =
      if f.locked then .error (.persistence "Failed to write updated configuration"
        (.io "Failed to write configuration file" .accessDenied))
      else .ok (.updated key.name (s.get? key.name) (key.kind.coerce text)) := by
  obtain ⟨pairs, hpairs⟩ := (hs.put key (key.kind.coerce text)).exists_nested
  have hput : d.find (s.put key.name (key.kind.coerce text)).path = .ok (place, .file f) := hfind
  rw [result_set_of_ne harguments hne, write_on_file hpairs.toText hput, hroom,
    Disk.File.overwritten]
  cases f.locked <;> rfl

end Store

namespace Session

open Store
open Yaml (Tree)

/-- The file holds what was written last, which is the store in memory unless a write has failed. -/
structure Sound (path : Path) (σ : Session) : Prop where
  store : σ.store.Plain path
  written : σ.written.Plain path
  saved : σ.written.Saved σ.disk
  settled : σ.pending = false → σ.written = σ.store

theorem Sound.saved_of_readText {path : Path} {σ : Session} (h : σ.Sound path) {d : Disk}
    (hd : d.readText path = σ.disk.readText path) : σ.written.Saved d := by
  apply h.saved.of_readText
  rw [h.written.path, hd]

theorem Sound.change {path : Path} {σ : Session} (h : σ.Sound path) {c : Change}
    (hc : Makes σ.store σ.logger σ.disk c) {outcome : Outcome} (hok : c.result = .ok outcome) :
    (σ.after c).Sound path := by
  have hplain := hc.plain h.store
  cases hc with
  | rejected f => cases hok
  | unchanged key => exact ⟨hplain, h.written, h.saved, h.settled⟩
  | failed context cause happly hwrite => cases hok
  | updated happly hwrite => exact ⟨hplain, hplain, write_ok hwrite, fun _ ↦ rfl⟩

theorem Sound.fail {path : Path} {σ : Session} (h : σ.Sound path) {d d' : Disk} {c : Change}
    (hc : Makes σ.store σ.logger d c) {e : Error} (he : c.result = .error e)
    (hd : d'.readText path = σ.disk.readText path) :
    Sound path { σ.after c with disk := d' } := by
  have hplain := hc.plain h.store
  have hsaved := h.saved_of_readText hd
  cases hc with
  | rejected f => exact ⟨hplain, h.written, hsaved, h.settled⟩
  | unchanged key => cases he
  | failed context cause happly hwrite =>
    exact ⟨hplain, h.written, hsaved, fun hfalse ↦ by cases hfalse⟩
  | updated happly hwrite => cases he

theorem Sound.step {path : Path} {σ τ : Session} (h : σ.Sound path) (hτ : Step path σ τ) :
    τ.Sound path := by
  cases hτ with
  | change arguments hok => exact h.change (set_makes _ _ _ arguments) hok
  | fail arguments he hd => exact h.fail (set_makes _ _ _ arguments) he hd
  | elsewhere hd => exact ⟨h.store, h.written, h.saved_of_readText hd, h.settled⟩

theorem Reachable.sound {env : Environment} {path : Path} {σ : Session}
    (h : Reachable env path σ) : σ.Sound path := by
  induction h with
  | @created d d' s events logger hnone hload =>
    obtain ⟨hs, hsaved⟩ := loadOrCreate_missing hnone hload
    have hplain : s.Plain path := by
      rw [hs]
      exact plain_initialAt env d path
    exact ⟨hplain, hplain, hsaved, fun _ ↦ rfl⟩
  | step hσ hstep ih => exact ih.step hstep

/-- Once a setting was updated, loading the file anew gives the store in memory. If it had its value
before, loading gives the store as it was written last, which is the one in memory unless a write
has failed since. -/
theorem Reachable.load_of_set {env : Environment} {path : Path} {σ : Session}
    (h : Reachable env path σ) (arguments : List String) (hwritten : σ.written.ReadsBack)
    (hstore : (σ.set arguments).store.ReadsBack) (env' : Environment) :
    (∀ key old new, (σ.set arguments).result = .ok (.updated key old new) →
      (load env' (σ.set arguments).disk path).result = .ok (σ.set arguments).store) ∧
    (∀ key, (σ.set arguments).result = .ok (.unchanged key) →
      (load env' (σ.set arguments).disk path).result = .ok σ.written ∧
        (σ.pending = false → σ.written = (σ.set arguments).store)) := by
  have hmakes : Makes σ.store σ.logger σ.disk (σ.set arguments) := set_makes _ _ _ arguments
  have hsound := h.sound
  refine ⟨fun key old new hupdated ↦ ?_, fun key hunchanged ↦ ?_⟩
  · have hplain := hmakes.plain hsound.store
    exact hplain.load hstore (hmakes.saved hupdated) env'
  · obtain ⟨hsame, hdisk⟩ := hmakes.eq_of_unchanged hunchanged
    rw [hsame, hdisk]
    exact ⟨hsound.written.load hwritten hsound.saved env', hsound.settled⟩

/-- A directory with a file `c` and nothing else. -/
def alone (text : String) (locked : Bool) : Disk :=
  ⟨[([[99]], .file { data := Bytes.ofString text, locked })], []⟩

/-- Nothing more can be written to the disk, though files can still be opened. -/
def full (d : Disk) : Disk := { d with device := { limit := some ⟨0, .noSpace⟩ } }

theorem find_full (text : String) : (full (alone text false)).find ⟨[99]⟩ =
    .ok ([[99]], .file { data := Bytes.ofString text }) := rfl

theorem read_full (text : String) :
    (full (alone text false)).read ⟨[99]⟩ = .ok (Bytes.ofString text) := rfl

theorem read_alone (text : String) (locked : Bool) :
    (alone text locked).read ⟨[99]⟩ = .ok (Bytes.ofString text) := rfl

theorem readText_alone (text : String) (locked : Bool) :
    (alone text locked).readText ⟨[99]⟩ = .ok text := by
  simp only [Disk.readText, read_alone, Bytes.toString?_ofString]

theorem overwrite_nothing (text : String) :
    Disk.overwrite ⟨[], []⟩ ⟨[99]⟩ (Bytes.ofString text) = (alone text false, .ok ()) := rfl

theorem result_set_alone {s : Store} (hs : s.Coherent) (hpath : s.path = ⟨[99]⟩)
    {arguments : List String} {key : Key} {value : String}
    (harguments : checkArguments arguments = .ok (key, value))
    (hne : (s.get? key.name).map Value.text ≠ some value) (logger : Logger) (text : String)
    (locked : Bool) : (s.set logger (alone text locked) arguments).result =
      if locked then .error (.persistence "Failed to write updated configuration"
        (.io "Failed to write configuration file" .accessDenied))
      else .ok (.updated key.name (s.get? key.name) (key.kind.coerce value)) := by
  have hfind : (alone text locked).find s.path =
      .ok ([[99]], .file { data := Bytes.ofString text, locked }) := by
    rw [hpath]
    rfl
  exact hs.result_set rfl hfind harguments hne logger

theorem initialAt_fresh : initialAt {} ⟨[], []⟩ ⟨[99]⟩ = fresh := by decide

theorem plain_fresh : fresh.Plain ⟨[99]⟩ := initialAt_fresh ▸ plain_initialAt {} ⟨[], []⟩ ⟨[99]⟩

def freshText : String := fresh.toText.toOption.getD ""

theorem toText_fresh : fresh.toText = .ok freshText := by
  obtain ⟨pairs, hpairs⟩ := plain_fresh.coherent.exists_nested
  rw [freshText, hpairs.toText]
  rfl

theorem loadOrCreate_fresh : loadOrCreate {} ⟨[], []⟩ ⟨[99]⟩ =
    ⟨.ok fresh, alone freshText false, [.noConfiguration ⟨[99]⟩, .wrote ⟨[99]⟩]⟩ := by
  have hnone : Disk.has ⟨[], []⟩ ⟨[99]⟩ = false := by decide
  have hsave : fresh.save ⟨[], []⟩ = ⟨.ok (), alone freshText false, [.wrote ⟨[99]⟩]⟩ :=
    save_of_overwrite toText_fresh rfl (overwrite_nothing freshText)
  simp only [loadOrCreate_new {} hnone, initialAt_fresh, hsave]
  rfl

def begun : Session := ⟨fresh, .start, alone freshText false, fresh, false⟩

theorem reachable_begun : Reachable {} ⟨[99]⟩ begun :=
  .created .start (by decide) loadOrCreate_fresh

def toDebug : List String := ["logging.level", "debug"]

theorem checkArguments_toDebug : checkArguments toDebug = .ok (.logLevel, "debug") := by decide

theorem level_fresh : (fresh.get? Key.logLevel.name).map Value.text ≠ some "debug" := by decide

def freshDebug : Store := fresh.put "logging.level" (.string "debug")

theorem store_set_toDebug (logger : Logger) (d : Disk) :
    (fresh.set logger d toDebug).store = freshDebug :=
  store_set_of_ne checkArguments_toDebug level_fresh logger d

theorem result_set_toDebug (logger : Logger) (text : String) (locked : Bool) :
    (fresh.set logger (alone text locked) toDebug).result =
      if locked then .error (.persistence "Failed to write updated configuration"
        (.io "Failed to write configuration file" .accessDenied))
      else .ok (.updated "logging.level" (some (.string "info")) (.string "debug")) :=
  result_set_alone plain_fresh.coherent rfl checkArguments_toDebug level_fresh logger text locked

theorem readsBack_fresh : fresh.ReadsBack ∧ freshDebug.ReadsBack :=
  ⟨by decide +kernel, by decide +kernel⟩

theorem loadOrCreate_alone (env : Environment) (locked : Bool) :
    loadOrCreate env (alone freshText locked) ⟨[99]⟩ = ⟨.ok fresh, alone freshText locked,
      (load env (alone freshText locked) ⟨[99]⟩).events⟩ := by
  have hsaved : fresh.Saved (alone freshText locked) :=
    ⟨freshText, toText_fresh, readText_alone freshText locked⟩
  have hhas : (alone freshText locked).has ⟨[99]⟩ = true := hsaved.has
  rw [loadOrCreate_present env hhas, plain_fresh.load readsBack_fresh.1 hsaved env]

theorem load_toDebug :
    (begun.set toDebug).result =
      .ok (.updated "logging.level" (some (.string "info")) (.string "debug")) ∧
    (load {} (begun.set toDebug).disk ⟨[99]⟩).result = .ok (begun.set toDebug).store := by
  have hresult := result_set_toDebug .start freshText false
  have hstore : (begun.set toDebug).store.ReadsBack :=
    store_set_toDebug .start (alone freshText false) ▸ readsBack_fresh.2
  have h := reachable_begun.load_of_set toDebug readsBack_fresh.1 hstore {}
  exact ⟨hresult, h.1 _ _ _ hresult⟩

/-- The session in which the new level could not be written while the file was locked. -/
def stuck : Session :=
  { begun.after (fresh.set .start (alone freshText true) toDebug) with disk := begun.disk }

theorem reachable_stuck : Reachable {} ⟨[99]⟩ stuck := by
  have hresult := result_set_toDebug .start freshText true
  rw [if_pos rfl] at hresult
  exact reachable_begun.step (.fail toDebug hresult rfl)

theorem stuck_eq : stuck.store = freshDebug ∧ stuck.written = fresh := by
  have hresult := result_set_toDebug .start freshText true
  simp only [stuck, after, hresult, if_true]
  exact ⟨store_set_toDebug .start (alone freshText true), rfl⟩

theorem unchanged_not_saved : Reachable {} ⟨[99]⟩ stuck ∧ stuck.written.ReadsBack ∧
    (stuck.set toDebug).store.ReadsBack ∧
    (stuck.set toDebug).result = .ok (.unchanged "logging.level") ∧
    (load {} (stuck.set toDebug).disk ⟨[99]⟩).result ≠ .ok (stuck.set toDebug).store := by
  obtain ⟨hstore, hwritten⟩ := stuck_eq
  have hsame : (stuck.store.get? Key.logLevel.name).map Value.text = some "debug" := by
    rw [hstore]
    decide
  have hset : stuck.set toDebug = _ :=
    set_of_same checkArguments_toDebug hsame stuck.logger stuck.disk
  have hsaved : stuck.written.Saved stuck.disk := reachable_stuck.sound.saved
  rw [hwritten] at hsaved
  have hload := plain_fresh.load readsBack_fresh.1 hsaved {}
  have hne : fresh ≠ freshDebug := by decide
  rw [hset, hwritten, hstore]
  refine ⟨reachable_stuck, readsBack_fresh.1, readsBack_fresh.2, rfl, ?_⟩
  rw [hload, ne_eq, Except.ok.injEq]
  exact hne

end Session

end ConfigKeeper

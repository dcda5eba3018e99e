import ConfigKeeper.Proofs.Sessions
import ConfigKeeper.Proofs.Trails

namespace ConfigKeeper.Store

open Log (Logger)

variable {s : Store} {logger next : Logger} {d : Disk} {arguments : List String} {key : Key}
  {text : String}

/-- The value of one key is that of the text, and the logger follows this key. -/
structure Applied (s : Store) (logger : Logger) (key : Key) (text : String) (t : Store)
    (next : Logger) : Prop where
  path : t.path = s.path
  value : t.get? key.name = some (key.kind.coerce text)
  others : ∀ k, k ≠ key.name → t.get? k = s.get? k
  logger : key.Steers text logger next

theorem applied_of_apply (h : key.apply text logger = .ok next) (s : Store) :
    s.Applied logger key text (s.put key.name (key.kind.coerce text)) next where
  path := rfl
  value := by
    rw [get?_put_name, if_pos rfl]
  others k hk := by
    rw [put_name, get?, KeyMap.get?_insert, if_neg hk]
    rfl
  logger := Key.steers_of_apply h

structure Untouched (s : Store) (logger : Logger) (d : Disk) (c : Change) : Prop where
  store : c.store = s
  logger : c.logger = logger
  disk : c.disk = d

/-- The account that the result of a change gives: whether the arguments were at fault, what became
of the value and of the logger, and what the file holds. -/
def Verdict (s : Store) (logger : Logger) (d : Disk) (arguments : List String) (c : Change) :
    Prop :=
  match c.result with
  | .error (.arguments f) => checkArguments arguments = .error f ∧ s.Untouched logger d c
  | .ok (.unchanged name) => ∃ key text, checkArguments arguments = .ok (key, text) ∧
      name = key.name ∧ (s.get? name).map Value.text = some text ∧ s.Untouched logger d c
  | .ok (.updated name old new) => ∃ key text, checkArguments arguments = .ok (key, text) ∧
      name = key.name ∧ old = s.get? name ∧ new = key.kind.coerce text ∧
      old.map Value.text ≠ some text ∧ s.Applied logger key text c.store c.logger ∧
      ∃ content, c.store.toText = .ok content ∧
        c.disk.read s.path = .ok (Bytes.ofString content)
  | .error (.persistence _ cause) => ∃ key text, checkArguments arguments = .ok (key, text) ∧
      (s.get? key.name).map Value.text ≠ some text ∧
      s.Applied logger key text c.store c.logger ∧
      ((∀ p data, d.read p = .ok data → c.disk.read p = .ok data) ∨
        ∃ content place part fault, cause = .io "Failed to write configuration file" fault ∧
          c.store.toText = .ok content ∧
          Limit.Stops d.limit? (Bytes.ofString content) part fault ∧
          d.Written c.disk s.path place part)
  | .error _ => False

theorem verdict_update (harguments : checkArguments arguments = .ok (key, text))
    (hne : (s.get? key.name).map Value.text ≠ some text) (logger : Logger) (d : Disk) :
    s.Verdict logger d arguments (s.update logger d key text) := by
  obtain ⟨next, hnext⟩ := Key.apply_of_check (checkArguments_eq_ok harguments) logger
  -- Store and logger are changed before the write, and whatever comes of it.
  have happlied := applied_of_apply hnext s
  rw [update_of_apply hnext]
  cases hwrite : (s.put key.name (key.kind.coerce text)).write d with
  | mk result d' events =>
    cases result with
    | error e =>
      obtain ⟨cause, rfl, hsave⟩ := save_of_write_error hwrite
      refine ⟨key, text, harguments, hne, happlied, (left_of_save hsave).imp_left ?_⟩
      exact fun hgrown p data hread ↦ hgrown.read hread
    | ok _ =>
      have hsaved := save_ok (save_of_write_ok hwrite)
      exact ⟨key, text, harguments, rfl, rfl, rfl, hne, happlied, hsaved⟩

theorem verdict_set (s : Store) (logger : Logger) (d : Disk) (arguments : List String) :
    s.Verdict logger d arguments (s.set logger d arguments) := by
  cases harguments : checkArguments arguments with
  | error f =>
    rw [set_of_error harguments]
    exact ⟨harguments, rfl, rfl, rfl⟩
  | ok found =>
    obtain ⟨key, text⟩ := found
    by_cases hsame : (s.get? key.name).map Value.text = some text
    · rw [set_of_same harguments hsame]
      exact ⟨key, text, harguments, rfl, hsame, rfl, rfl, rfl⟩
    · rw [set_of_ne harguments hsame]
      exact verdict_update harguments hsame logger d

/-- A change is checked and then made: the arguments alone decide whether they are refused, the
logger never fails once they are not, and the result gives a true account of the rest. -/
theorem set_checks_then_applies (s : Store) (logger : Logger) (d : Disk)
    (arguments : List String) :
    s.Verdict logger d arguments (s.set logger d arguments) ∧
    (∀ f, (s.set logger d arguments).result = .error (.arguments f) ↔
      checkArguments arguments = .error f) ∧
    ∀ key text, checkArguments arguments = .ok (key, text) →
      ∃ next, key.apply text logger = .ok next := by
  refine ⟨verdict_set s logger d arguments, fun f ↦ ⟨fun hresult ↦ ?_, fun hf ↦ ?_⟩,
    fun key text h ↦ ?_⟩
  · have hverdict := verdict_set s logger d arguments
    rw [Verdict, hresult] at hverdict
    exact hverdict.1
  · rw [set_of_error hf]
  · exact Key.apply_of_check (checkArguments_eq_ok h) logger

/-- Where there is no room at all, a change empties the file. -/
theorem Coherent.set_without_room (hs : s.Coherent) {place : Place} {f : Disk.File}
    {fault : Disk.Fault} (hroom : d.limit? = some ⟨0, fault⟩)
    (hfind : d.find s.path = .ok (place, .file f)) (hlocked : f.locked = false)
    (harguments : checkArguments arguments = .ok (key, text))
    (hne : (s.get? key.name).map Value.text ≠ some text) (logger : Logger) :
    (s.set logger d arguments).result =
      .error (.persistence "Failed to write updated configuration"
        (.io "Failed to write configuration file" fault)) ∧
    (s.set logger d arguments).disk.read s.path = .ok [] := by
  obtain ⟨next, hnext⟩ := Key.apply_of_check (checkArguments_eq_ok harguments) logger
  obtain ⟨pairs, hpairs⟩ := (hs.put key (key.kind.coerce text)).exists_nested
  have hput : d.find (s.put key.name (key.kind.coerce text)).path = .ok (place, .file f) := hfind
  have hpass := Limit.pass_zero (ofString_toText_ne_nil hpairs.toText) fault
  have hread := Disk.read_of_find (Disk.find_put hfind { f with data := [] })
  rw [set_of_ne harguments hne, update_of_apply hnext, write_on_file hpairs.toText hput, hroom,
    Disk.File.overwritten, if_neg (Bool.eq_false_iff.1 hlocked), hpass]
  exact ⟨rfl, hread⟩

section

open Session

theorem emptied_toDebug :
    (full (alone freshText false)).read fresh.path = .ok (Bytes.ofString freshText) ∧
    Bytes.ofString freshText ≠ [] ∧
    (fresh.set .start (full (alone freshText false)) toDebug).result =
      .error (.persistence "Failed to write updated configuration"
        (.io "Failed to write configuration file" .noSpace)) ∧
    (fresh.set .start (full (alone freshText false)) toDebug).disk.read fresh.path = .ok [] := by
  have hfind := find_full freshText
  have hread := read_full freshText
  rw [← plain_fresh.path] at hfind hread
  have hset := plain_fresh.coherent.set_without_room rfl hfind rfl checkArguments_toDebug
    level_fresh .start
  exact ⟨hread, ofString_toText_ne_nil toText_fresh, hset⟩

end

end ConfigKeeper.Store

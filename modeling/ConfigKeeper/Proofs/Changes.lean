import ConfigKeeper.Proofs.Coherence
import ConfigKeeper.Proofs.Files
import ConfigKeeper.Store.Change

namespace ConfigKeeper

open Log (Logger)

theorem Log.Level.ofText?_isSome {text : String} (h : text ∈ Log.Level.names) :
    (Log.Level.ofText? text).isSome := by
  have hall : ∀ name ∈ Log.Level.names, (Log.Level.ofText? name).isSome := by decide
  exact hall text h

namespace Key

theorem name_of_find {name : String} {key : Key} (h : find name = .ok key) : key.name = name := by
  rw [find] at h
  split at h
  · next hnamed =>
    cases h
    exact name_of_named? hnamed
  · cases h

theorem apply_of_check {key : Key} {text : String} (h : key.check text = .ok ()) (logger : Logger) :
    ∃ next, key.apply text logger = .ok next := by
  rw [apply]
  split
  · next hkind =>
    rw [check, hkind, Kind.check] at h
    split at h
    · next hname =>
      obtain ⟨level, hlevel⟩ := Option.isSome_iff_exists.1 (Log.Level.ofText?_isSome hname)
      rw [hlevel]
      exact ⟨_, rfl⟩
    · cases h
  all_goals exact ⟨_, rfl⟩

/-- The logger is as it was but for what the key controls, and that is what the text names. -/
structure Steers (key : Key) (text : String) (logger next : Logger) : Prop where
  level : if key = .logLevel then Log.Level.ofText? text = some next.level
    else next.level = logger.level
  format : if key = .logFormat then next.format = .ofText text else next.format = logger.format
  output : next.output = logger.output.map fun o ↦
    { filter := if key = .logLevel then next.level.filter else o.filter
      shape := if key = .logFormat then next.format else o.shape }

theorem steers_of_apply {key : Key} {text : String} {logger next : Logger}
    (h : key.apply text logger = .ok next) : key.Steers text logger next := by
  by_cases hlevel : key = .logLevel
  · subst hlevel
    simp only [apply, kind] at h
    split at h
    · next level hnamed =>
      cases h
      exact ⟨hnamed, rfl, rfl⟩
    · cases h
  by_cases hformat : key = .logFormat
  · subst hformat
    cases h
    exact ⟨rfl, rfl, rfl⟩
  · have hnext : next = logger := by
      cases key <;>
        first | exact absurd rfl hlevel | exact absurd rfl hformat | (cases h; rfl)
    subst hnext
    exact ⟨by rw [if_neg hlevel], by rw [if_neg hformat], by simp [hlevel, hformat]⟩

end Key

namespace Store

/-- What a change of a store can come to: the arguments are at fault, the value is the same as
before, or it is kept and the file written, which may fail. -/
inductive Makes (s : Store) (logger : Logger) (d : Disk) : Change → Prop
  | rejected (f : ArgumentFault) : Makes s logger d ⟨.error (.arguments f), s, logger, d, []⟩
  | unchanged (key : Key) : Makes s logger d ⟨.ok (.unchanged key.name), s, logger, d, []⟩
  | failed {key : Key} {text : String} {next : Logger} {d' : Disk} {events : List Log.Event}
      (context : String) (cause : Error) :
      key.apply text logger = .ok next →
      (s.put key.name (key.kind.coerce text)).write d =
        ⟨.error (.persistence context cause), d', events⟩ →
      Makes s logger d ⟨.error (.persistence context cause),
        s.put key.name (key.kind.coerce text), next, d', events⟩
  | updated {key : Key} {text : String} {next : Logger} {d' : Disk} {events : List Log.Event} :
      key.apply text logger = .ok next →
      (s.put key.name (key.kind.coerce text)).write d = ⟨.ok (), d', events⟩ →
      Makes s logger d ⟨.ok (.updated key.name (s.get? key.name) (key.kind.coerce text)),
        s.put key.name (key.kind.coerce text), next, d', events⟩

/-- Arguments that are not at fault are the name of a key and a text that the key allows. -/
theorem arguments_of_check {arguments : List String} {key : Key} {text : String}
    (h : checkArguments arguments = .ok (key, text)) :
    arguments = [key.name, text] ∧ key.check text = .ok () := by
  unfold checkArguments at h
  split at h
  · next name value =>
    split at h
    · cases h
    · next hfind =>
      split at h
      · cases h
      · next hcheck =>
        cases h
        rw [Key.name_of_find hfind]
        exact ⟨rfl, hcheck⟩
  · cases h

theorem checkArguments_eq_ok {arguments : List String} {key : Key} {text : String}
    (h : checkArguments arguments = .ok (key, text)) : key.check text = .ok () :=
  (arguments_of_check h).2

theorem set_of_error {arguments : List String} {f : ArgumentFault}
    (harguments : checkArguments arguments = .error f) (s : Store) (logger : Logger) (d : Disk) :
    s.set logger d arguments = ⟨.error (.arguments f), s, logger, d, []⟩ := by
  simp only [set, harguments]

theorem set_of_same {arguments : List String} {key : Key} {text : String} {s : Store}
    (harguments : checkArguments arguments = .ok (key, text))
    (hsame : (s.get? key.name).map Value.text = some text) (logger : Logger) (d : Disk) :
    s.set logger d arguments = ⟨.ok (.unchanged key.name), s, logger, d, []⟩ := by
  simp only [set, harguments, hsame, if_true]

theorem set_of_ne {arguments : List String} {key : Key} {text : String} {s : Store}
    (harguments : checkArguments arguments = .ok (key, text))
    (hne : (s.get? key.name).map Value.text ≠ some text) (logger : Logger) (d : Disk) :
    s.set logger d arguments = s.update logger d key text := by
  simp only [set, harguments, hne, if_false]

/-- Once the logger has followed, the file alone decides on the result of an update. -/
theorem update_of_apply {key : Key} {text : String} {logger next : Logger}
    (h : key.apply text logger = .ok next) (s : Store) (d : Disk) :
    s.update logger d key text =
      let saving := (s.put key.name (key.kind.coerce text)).write d
      { result := saving.result.map fun _ ↦
          .updated key.name (s.get? key.name) (key.kind.coerce text)
        store := s.put key.name (key.kind.coerce text)
        logger := next
        disk := saving.disk
        events := saving.events } := by
  simp only [update, h]
  split
  · next hwrite =>
    rw [hwrite]
    rfl
  · next hwrite =>
    rw [hwrite]
    rfl

theorem update_makes {key : Key} {text : String} (hcheck : key.check text = .ok ()) (s : Store)
    (logger : Logger) (d : Disk) : Makes s logger d (s.update logger d key text) := by
  obtain ⟨next, hnext⟩ := Key.apply_of_check hcheck logger
  rw [update_of_apply hnext]
  cases hwrite : (s.put key.name (key.kind.coerce text)).write d with
  | mk result d' events =>
    cases result with
    | error e =>
      obtain ⟨context, cause, rfl⟩ := write_error hwrite
      exact .failed context cause hnext hwrite
    | ok _ => exact .updated hnext hwrite

theorem set_makes (s : Store) (logger : Logger) (d : Disk) (arguments : List String) :
    Makes s logger d (s.set logger d arguments) := by
  cases harguments : checkArguments arguments with
  | error f =>
    rw [set_of_error harguments]
    exact .rejected f
  | ok found =>
    obtain ⟨key, text⟩ := found
    by_cases hsame : (s.get? key.name).map Value.text = some text
    · rw [set_of_same harguments hsame]
      exact .unchanged key
    · rw [set_of_ne harguments hsame]
      exact update_makes (checkArguments_eq_ok harguments) s logger d

theorem set_logger (s : Store) (logger other : Logger) (d : Disk) (arguments : List String) :
    (s.set logger d arguments).result = (s.set other d arguments).result ∧
      (s.set logger d arguments).store = (s.set other d arguments).store ∧
      (s.set logger d arguments).disk = (s.set other d arguments).disk := by
  cases harguments : checkArguments arguments with
  | error f => simp only [set_of_error harguments, and_self]
  | ok found =>
    obtain ⟨key, text⟩ := found
    by_cases hsame : (s.get? key.name).map Value.text = some text
    · simp only [set_of_same harguments hsame, and_self]
    · have hcheck := checkArguments_eq_ok harguments
      obtain ⟨next, hnext⟩ := Key.apply_of_check hcheck logger
      obtain ⟨next', hnext'⟩ := Key.apply_of_check hcheck other
      simp only [set_of_ne harguments hsame, update_of_apply hnext, update_of_apply hnext',
        and_self]

/-- A new value is kept whether it can be written or not. -/
theorem store_set_of_ne {arguments : List String} {key : Key} {text : String} {s : Store}
    (harguments : checkArguments arguments = .ok (key, text))
    (hne : (s.get? key.name).map Value.text ≠ some text) (logger : Logger) (d : Disk) :
    (s.set logger d arguments).store = s.put key.name (key.kind.coerce text) := by
  obtain ⟨next, hnext⟩ := Key.apply_of_check (checkArguments_eq_ok harguments) logger
  rw [set_of_ne harguments hne, update_of_apply hnext]

theorem result_set_of_ne {arguments : List String} {key : Key} {text : String} {s : Store}
    (harguments : checkArguments arguments = .ok (key, text))
    (hne : (s.get? key.name).map Value.text ≠ some text) (logger : Logger) (d : Disk) :
    (s.set logger d arguments).result =
      ((s.put key.name (key.kind.coerce text)).write d).result.map fun _ ↦
        .updated key.name (s.get? key.name) (key.kind.coerce text) := by
  obtain ⟨next, hnext⟩ := Key.apply_of_check (checkArguments_eq_ok harguments) logger
  rw [set_of_ne harguments hne, update_of_apply hnext]

/-- The logger has the level and the format of the store. -/
def InStep (s : Store) (logger : Logger) : Prop :=
  logger.level = s.logLevel.1 ∧ logger.format = s.logFormat

theorem get?_put_name (s : Store) (key other : Key) (v : Value) :
    (s.put key.name v).get? other.name = if other.name = key.name then some v
      else s.get? other.name := by
  rw [put_name, get?, KeyMap.get?_insert]
  rfl

theorem logLevel_put_of_ne {key : Key} (h : key ≠ .logLevel) (s : Store) (v : Value) :
    (s.put key.name v).logLevel = s.logLevel := by
  have hne : ¬Key.logLevel.name = key.name := by
    cases key <;> first | exact absurd rfl h | decide
  rw [logLevel, logLevel, get?_put_name, if_neg hne]

theorem logFormat_put_of_ne {key : Key} (h : key ≠ .logFormat) (s : Store) (v : Value) :
    (s.put key.name v).logFormat = s.logFormat := by
  have hne : ¬Key.logFormat.name = key.name := by
    cases key <;> first | exact absurd rfl h | decide
  rw [logFormat, logFormat, get?_put_name, if_neg hne]

theorem InStep.put {s : Store} {logger next : Logger} (h : InStep s logger) {key : Key}
    {text : String} (happly : key.apply text logger = .ok next) :
    InStep (s.put key.name (key.kind.coerce text)) next := by
  obtain ⟨hlevel, hformat⟩ := h
  have hsteers := Key.steers_of_apply happly
  refine ⟨?_, ?_⟩
  · have hnext := hsteers.level
    split at hnext
    · next hkey =>
      subst hkey
      rw [logLevel, get?_put_name, if_pos rfl]
      simp only [Key.kind, Kind.coerce, Value.text, hnext]
    · next hkey => rw [logLevel_put_of_ne hkey, hnext, hlevel]
  · have hnext := hsteers.format
    split at hnext
    · next hkey =>
      subst hkey
      rw [logFormat, get?_put_name, if_pos rfl, hnext]
      rfl
    · next hkey => rw [logFormat_put_of_ne hkey, hnext, hformat]

section Makes

variable {s : Store} {logger : Logger} {d : Disk} {c : Change}

theorem Makes.inStep (h : Makes s logger d c) (hs : InStep s logger) : InStep c.store c.logger := by
  cases h with
  | rejected f => exact hs
  | unchanged key => exact hs
  | failed context cause happly => exact hs.put happly
  | updated happly => exact hs.put happly

theorem Makes.coherent (h : Makes s logger d c) (hs : s.Coherent) : c.store.Coherent := by
  cases h with
  | rejected f => exact hs
  | unchanged key => exact hs
  | failed context cause happly hwrite => exact hs.put _ _
  | updated happly hwrite => exact hs.put _ _

theorem Makes.mem_keys (h : Makes s logger d c) (hs : s.Coherent) {k : String} :
    k ∈ c.store.values.keys ↔ k ∈ s.values.keys := by
  cases h with
  | rejected f => exact .rfl
  | unchanged key => exact .rfl
  | failed context cause happly hwrite => exact hs.mem_keys_put
  | updated happly hwrite => exact hs.mem_keys_put

theorem Makes.path (h : Makes s logger d c) : c.store.path = s.path := by
  cases h <;> rfl

theorem Makes.saved (h : Makes s logger d c) {key : String} {old : Option Value} {new : Value}
    (hc : c.result = .ok (.updated key old new)) : c.store.Saved c.disk := by
  cases h with
  | rejected f => cases hc
  | unchanged key => cases hc
  | failed context cause happly hwrite => cases hc
  | updated happly hwrite => exact write_ok hwrite

theorem Makes.eq_of_unchanged (h : Makes s logger d c) {key : String}
    (hc : c.result = .ok (.unchanged key)) : c.store = s ∧ c.disk = d := by
  cases h with
  | rejected f => cases hc
  | unchanged key => exact ⟨rfl, rfl⟩
  | failed context cause happly hwrite => cases hc
  | updated happly hwrite => cases hc

end Makes

end Store

end ConfigKeeper

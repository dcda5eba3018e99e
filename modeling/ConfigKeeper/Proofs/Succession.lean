import ConfigKeeper.Proofs.Coercions
import ConfigKeeper.Proofs.Histories
import ConfigKeeper.Proofs.Resaving

namespace ConfigKeeper

open Log (Logger)

theorem Log.Logger.setLevel_setFormat (l : Logger) (level : Log.Level) (format : Log.Format) :
    (l.setFormat format).setLevel level = (l.setLevel level).setFormat format := by
  simp only [setLevel, setFormat, Option.map_map]
  rfl

theorem Log.Logger.setLevel_setLevel (l : Logger) (level : Log.Level) :
    (l.setLevel level).setLevel level = l.setLevel level := by
  simp only [setLevel, Option.map_map]
  rfl

theorem Log.Logger.setFormat_setFormat (l : Logger) (format : Log.Format) :
    (l.setFormat format).setFormat format = l.setFormat format := by
  simp only [setFormat, Option.map_map]
  rfl

namespace Key

/-- What a text for a key does to any logger. -/
inductive Turns (text : String) : Key → (Logger → Logger) → Prop
  | level {level : Log.Level} : Log.Level.ofText? text = some level →
      Turns text .logLevel fun l ↦ l.setLevel level
  | format : Turns text .logFormat fun l ↦ l.setFormat (.ofText text)
  | nothing {key : Key} : key ≠ .logLevel → key ≠ .logFormat → Turns text key id

variable {key other : Key} {text text' : String} {turn turn' : Logger → Logger}

theorem turns_of_check (h : key.check text = .ok ()) :
    ∃ turn, Turns text key turn ∧ ∀ l, key.apply text l = .ok (turn l) := by
  by_cases hlevel : key = .logLevel
  · subst hlevel
    rw [check, kind, Kind.check] at h
    split at h
    · next hname =>
      obtain ⟨level, hnamed⟩ := Option.isSome_iff_exists.1 (Log.Level.ofText?_isSome hname)
      refine ⟨_, .level hnamed, fun l ↦ ?_⟩
      simp only [apply, kind, hnamed]
    · cases h
  by_cases hformat : key = .logFormat
  · subst hformat
    exact ⟨_, .format, fun l ↦ rfl⟩
  · refine ⟨id, .nothing hlevel hformat, fun l ↦ ?_⟩
    cases key <;> first | exact absurd rfl hlevel | exact absurd rfl hformat | rfl

theorem Turns.comm (h : Turns text key turn) (h' : Turns text' other turn') (hne : key ≠ other)
    (l : Logger) : turn' (turn l) = turn (turn' l) := by
  cases h with
  | level _ =>
    cases h' with
    | level _ => exact absurd rfl hne
    | format => exact (l.setLevel_setFormat _ _).symm
    | nothing _ _ => rfl
  | format =>
    cases h' with
    | level _ => exact l.setLevel_setFormat _ _
    | format => exact absurd rfl hne
    | nothing _ _ => rfl
  | nothing _ _ => rfl

theorem Turns.again (h : Turns text key turn) (l : Logger) : turn (turn l) = turn l := by
  cases h with
  | level _ => exact l.setLevel_setLevel _
  | format => exact l.setFormat_setFormat _
  | nothing _ _ => rfl

end Key

namespace Change

def next (c : Change) (arguments : List String) : Change :=
  c.store.set c.logger c.disk arguments

def Completed (c : Change) : Prop := ∀ context cause, c.result ≠ .error (.persistence context cause)

end Change

namespace Store

variable {s : Store} {logger : Logger} {d : Disk} {key other : Key} {place : Place}
  {f : Disk.File} {text text' : String}

theorem put_put (s : Store) (key : Key) (v w : Value) :
    (s.put key.name v).put key.name w = s.put key.name w := by
  simp only [put_name, KeyMap.insert_insert]

theorem put_comm (hne : key ≠ other) (s : Store) (v w : Value) :
    (s.put key.name v).put other.name w = (s.put other.name w).put key.name v := by
  simp only [put_name, KeyMap.insert_comm (Key.name_injective.ne hne)]

theorem get?_put_of_ne (hne : key ≠ other) (s : Store) (v : Value) :
    (s.put other.name v).get? key.name = s.get? key.name := by
  rw [get?_put_name, if_neg (Key.name_injective.ne hne)]

/-- The arguments ask for nothing to be done, in all stores with the same value for a key. -/
def Idle (s : Store) (key : Key) (arguments : List String) (r : Except Error Outcome) : Prop :=
  ∀ (t : Store) (logger : Logger) (d : Disk), t.get? key.name = s.get? key.name →
    t.set logger d arguments = ⟨r, t, logger, d, []⟩

/-- The arguments ask for a text to be set, in all stores with the same value for a key. -/
def Acts (s : Store) (key : Key) (arguments : List String) (text : String) : Prop :=
  ∀ (t : Store) (logger : Logger) (d : Disk), t.get? key.name = s.get? key.name →
    t.set logger d arguments = t.update logger d key text

/-- What a store makes of arguments that name a key. -/
inductive Decides (s : Store) (key : Key) (arguments : List String) : Prop
  | idle (r : Except Error Outcome) : s.Idle key arguments r → Decides s key arguments
  | acts {text : String} : key.check text = .ok () → s.Acts key arguments text →
      Decides s key arguments

theorem decides (s : Store) (key : Key) (rest : List String) :
    s.Decides key (key.name :: rest) := by
  cases harguments : checkArguments (key.name :: rest) with
  | error fault => exact .idle _ fun t logger d _ ↦ set_of_error harguments t logger d
  | ok found =>
    obtain ⟨key', text⟩ := found
    obtain ⟨heq, hcheck⟩ := arguments_of_check harguments
    obtain ⟨hname, -⟩ := List.cons_eq_cons.1 heq
    obtain rfl := Key.name_injective hname
    by_cases hsame : (s.get? key.name).map Value.text = some text
    · refine .idle (.ok (.unchanged key.name)) fun t logger d ht ↦ ?_
      exact set_of_same harguments (ht ▸ hsame) logger d
    · refine .acts hcheck fun t logger d ht ↦ ?_
      exact set_of_ne harguments (ht ▸ hsame) logger d

theorem store_update (h : key.check text = .ok ()) (s : Store) (logger : Logger) (d : Disk) :
    (s.update logger d key text).store = s.put key.name (key.kind.coerce text) := by
  obtain ⟨next, hnext⟩ := Key.apply_of_check h logger
  rw [update_of_apply hnext]

theorem get?_set_of_ne (hne : key ≠ other) (s : Store) (logger : Logger) (d : Disk)
    (rest : List String) :
    (s.set logger d (other.name :: rest)).store.get? key.name = s.get? key.name := by
  cases s.decides other rest with
  | idle r hidle => rw [hidle s logger d rfl]
  | acts hcheck hacts =>
    rw [hacts s logger d rfl, store_update hcheck]
    exact get?_put_of_ne hne s _

/-- What an update comes to where the file of the store is there. -/
def rewriting (s : Store) (key : Key) (text : String) (next : Logger) (d : Disk) (place : Place)
    (f : Disk.File) (content : String) : Change :=
  let written := f.overwritten d.limit? (Bytes.ofString content)
  { result := (written.2.mapError fun fault ↦
        .persistence "Failed to write updated configuration"
          (.io "Failed to write configuration file" fault)).map fun _ ↦
      .updated key.name (s.get? key.name) (key.kind.coerce text)
    store := s.put key.name (key.kind.coerce text)
    logger := next
    disk := d.put place (.file written.1)
    events := if written.2.isOk then [.wrote s.path] else [] }

theorem rewriting_overwritten (s : Store) (key : Key) (text : String) (next : Logger) (d : Disk)
    (place : Place) (f : Disk.File) (content : String) (data : Bytes) :
    s.rewriting key text next (d.put place (.file (f.overwritten d.limit? data).1)) place
      (f.overwritten d.limit? data).1 content =
    s.rewriting key text next d place f content := by
  simp only [rewriting, Disk.limit?_put, Disk.put_put, Disk.File.overwritten_overwritten]

theorem overwritten_of_completed {next : Logger} {content : String}
    (h : (s.rewriting key text next d place f content).Completed) :
    (f.overwritten d.limit? (Bytes.ofString content)).2 = .ok () := by
  cases hresult : (f.overwritten d.limit? (Bytes.ofString content)).2 with
  | ok _ => rfl
  | error fault =>
    refine absurd ?_ (h "Failed to write updated configuration"
      (.io "Failed to write configuration file" fault))
    rw [rewriting, hresult]
    rfl

theorem update_on_file {next : Logger} (happly : key.apply text logger = .ok next)
    {content : String} (htext : (s.put key.name (key.kind.coerce text)).toText = .ok content)
    (hfind : d.find s.path = .ok (place, .file f)) :
    s.update logger d key text = s.rewriting key text next d place f content := by
  rw [update_of_apply happly, write_on_file htext hfind]
  rfl

theorem Acts.next_rewriting {arguments : List String} (hacts : s.Acts key arguments text)
    (hne : key ≠ other) {l next : Logger} (happly : key.apply text l = .ok next)
    {content content' : String}
    (htext : ((s.put other.name (other.kind.coerce text')).put key.name
      (key.kind.coerce text)).toText = .ok content')
    (hfind : d.find s.path = .ok (place, .file f)) :
    (s.rewriting other text' l d place f content).next arguments =
      (s.put other.name (other.kind.coerce text')).rewriting key text next d place f content' := by
  have hvalue := get?_put_of_ne hne s (other.kind.coerce text')
  have hfind' := Disk.find_put hfind (f.overwritten d.limit? (Bytes.ofString content)).1
  refine (hacts _ l _ hvalue).trans ?_
  rw [rewriting, update_on_file happly htext hfind', rewriting_overwritten]

/-- Two changes have the same results in either order, and leave the same. -/
structure Interchange (s : Store) (logger : Logger) (d : Disk) (one two : List String) : Prop where
  result_one : (s.set logger d one).result = ((s.set logger d two).next one).result
  result_two : (s.set logger d two).result = ((s.set logger d one).next two).result
  same_store : ((s.set logger d one).next two).store = ((s.set logger d two).next one).store
  same_logger : ((s.set logger d one).next two).logger = ((s.set logger d two).next one).logger
  same_disk : ((s.set logger d one).next two).disk = ((s.set logger d two).next one).disk

theorem Interchange.symm {one two : List String} (h : s.Interchange logger d one two) :
    s.Interchange logger d two one where
  result_one := h.result_two
  result_two := h.result_one
  same_store := h.same_store.symm
  same_logger := h.same_logger.symm
  same_disk := h.same_disk.symm

/-- What has nothing to do before another change has nothing to do after it. -/
theorem interchange_of_idle (hne : key ≠ other) {arguments : List String}
    {r : Except Error Outcome} (hidle : s.Idle key arguments r) (logger : Logger) (d : Disk)
    (rest : List String) : s.Interchange logger d arguments (other.name :: rest) := by
  have hvalue := get?_set_of_ne hne s logger d rest
  have hbefore := hidle s logger d rfl
  have hafter : (s.set logger d (other.name :: rest)).next arguments = ⟨r, _, _, _, []⟩ :=
    hidle _ (s.set logger d (other.name :: rest)).logger _ hvalue
  constructor
  · rw [hbefore, hafter]
  · rw [hbefore]
    rfl
  all_goals
    rw [hbefore, hafter]
    rfl

/-- The disk takes any text, or it takes those of each change alone and of the second after the
first. -/
def Roomy (s : Store) (logger : Logger) (d : Disk) (one two : List String) : Prop :=
  d.limit? = none ∨ (s.set logger d one).Completed ∧ (s.set logger d two).Completed ∧
    ((s.set logger d one).next two).Completed

theorem interchange_of_updates (hs : s.Coherent) (hfind : d.find s.path = .ok (place, .file f))
    (hne : key ≠ other) (hcheck : key.check text = .ok ()) (hcheck' : other.check text' = .ok ())
    {one two : List String} (hone : s.Acts key one text) (htwo : s.Acts other two text')
    (hroom : s.Roomy logger d one two) : s.Interchange logger d one two := by
  obtain ⟨turn, hturn, happly⟩ := Key.turns_of_check hcheck
  obtain ⟨turn', hturn', happly'⟩ := Key.turns_of_check hcheck'
  have hs₁ := hs.put key (key.kind.coerce text)
  have hs₂ := hs.put other (other.kind.coerce text')
  have hput := put_comm hne s (key.kind.coerce text) (other.kind.coerce text')
  obtain ⟨content₁, hcontent₁⟩ := hs₁.toText
  obtain ⟨content₂, hcontent₂⟩ := hs₂.toText
  obtain ⟨content, hcontent⟩ := (hs₁.put other (other.kind.coerce text')).toText
  have hfirst : s.set logger d one = s.rewriting key text (turn logger) d place f content₁ := by
    rw [hone s logger d rfl, update_on_file (happly logger) hcontent₁ hfind]
  have hfirst' : s.set logger d two =
      s.rewriting other text' (turn' logger) d place f content₂ := by
    rw [htwo s logger d rfl, update_on_file (happly' logger) hcontent₂ hfind]
  -- Both orders end with the text of one and the same store in the file.
  have hsecond : (s.set logger d one).next two = _ :=
    hfirst ▸ htwo.next_rewriting hne.symm (happly' _) hcontent hfind
  have hsecond' : (s.set logger d two).next one = _ :=
    hfirst' ▸ hone.next_rewriting hne (happly _) (hput ▸ hcontent) hfind
  have hwritten : (f.overwritten d.limit? (Bytes.ofString content₁)).2 =
        (f.overwritten d.limit? (Bytes.ofString content)).2 ∧
      (f.overwritten d.limit? (Bytes.ofString content₂)).2 =
        (f.overwritten d.limit? (Bytes.ofString content)).2 := by
    rcases hroom with hnone | ⟨hdone₁, hdone₂, hdone⟩
    · rw [hnone]
      exact ⟨f.overwritten_none_snd _ _, f.overwritten_none_snd _ _⟩
    · rw [hfirst] at hdone₁
      rw [hfirst'] at hdone₂
      rw [hsecond] at hdone
      rw [overwritten_of_completed hdone₁, overwritten_of_completed hdone₂,
        overwritten_of_completed hdone]
      exact ⟨rfl, rfl⟩
  constructor
  · simp only [hfirst, hsecond', rewriting, get?_put_of_ne hne, hwritten.1]
  · simp only [hfirst', hsecond, rewriting, get?_put_of_ne hne.symm, hwritten.2]
  · rw [hsecond, hsecond']
    exact hput
  · rw [hsecond, hsecond']
    exact hturn.comm hturn' hne logger
  · rw [hsecond, hsecond']
    rfl

/-- Changes of different keys can be made in either order, be they made, refused or not needed: each
has the same result, and in the end the store, the logger and the disk are the same. -/
theorem set_interchange (hs : Origin s) (hfind : d.find s.path = .ok (place, .file f))
    (hne : key ≠ other) (rest rest' : List String) (logger : Logger)
    (hroom : s.Roomy logger d (key.name :: rest) (other.name :: rest')) :
    s.Interchange logger d (key.name :: rest) (other.name :: rest') := by
  cases s.decides key rest with
  | idle r hidle => exact interchange_of_idle hne hidle logger d rest'
  | acts hcheck hone =>
    cases s.decides other rest' with
    | idle r hidle => exact (interchange_of_idle hne.symm hidle logger d rest).symm
    | acts hcheck' htwo =>
      exact interchange_of_updates hs.coherent hfind hne hcheck hcheck' hone htwo hroom

section

open Session

theorem interchange_json : (alone freshText false).find fresh.path =
      .ok ([[99]], .file { data := Bytes.ofString freshText }) ∧
    Key.logLevel ≠ .logFormat ∧
    fresh.Interchange .start (alone freshText false) toDebug ["logging.format", "json"] ∧
    ((fresh.set .start (alone freshText false) toDebug).next ["logging.format", "json"]).result =
      .ok (.updated "logging.format" (some (.string "text")) (.string "json")) := by
  have horigin : Origin fresh := .path (congrArg Attempt.result loadOrCreate_fresh)
  have hfind : (alone freshText false).find fresh.path =
      .ok ([[99]], .file { data := Bytes.ofString freshText }) := rfl
  have hne : Key.logLevel ≠ .logFormat := by decide
  have hjson : checkArguments ["logging.format", "json"] = .ok (.logFormat, "json") := by decide
  have hnew : (fresh.get? Key.logFormat.name).map Value.text ≠ some "json" := by decide
  have h := set_interchange horigin hfind hne ["debug"] ["json"] .start (Or.inl rfl)
  have hresult := result_set_alone plain_fresh.coherent rfl hjson hnew .start freshText false
  exact ⟨hfind, hne, h, h.result_two.symm.trans hresult⟩

end

/-- All that is known of a change that was made. -/
theorem write_of_updated {arguments : List String} {k : String} {old : Option Value} {new : Value}
    (h : (s.set logger d arguments).result = .ok (.updated k old new)) :
    ∃ key text next d' events, checkArguments arguments = .ok (key, text) ∧
      key.apply text logger = .ok next ∧
      (s.put key.name (key.kind.coerce text)).write d = ⟨.ok (), d', events⟩ ∧
      s.set logger d arguments =
        ⟨.ok (.updated key.name (s.get? key.name) (key.kind.coerce text)),
          s.put key.name (key.kind.coerce text), next, d', events⟩ := by
  cases harguments : checkArguments arguments with
  | error fault =>
    rw [set_of_error harguments] at h
    cases h
  | ok found =>
    obtain ⟨key, text⟩ := found
    by_cases hsame : (s.get? key.name).map Value.text = some text
    · rw [set_of_same harguments hsame] at h
      cases h
    · obtain ⟨next, hnext⟩ := Key.apply_of_check (checkArguments_eq_ok harguments) logger
      have hset := (set_of_ne harguments hsame logger d).trans (update_of_apply hnext s d)
      cases hwrite : (s.put key.name (key.kind.coerce text)).write d with
      | mk result d' events =>
        rw [hwrite] at hset
        cases result with
        | error e =>
          rw [hset] at h
          cases h
        | ok _ => exact ⟨key, text, next, d', events, rfl, hnext, hwrite, hset⟩

/-- Only a truth value can show another text than the one it was given as, where that is neither of
the two that it is shown as. -/
theorem flag_of_text_ne (hcheck : key.check text = .ok ())
    (hne : (key.kind.coerce text).text ≠ text) : key.kind = .flag ∧
      (∃ b, Flag.ofText? text = some b ∧ key.kind.coerce text = .bool b) ∧
      text ≠ "true" ∧ text ≠ "false" := by
  have hkind : key.kind = .flag := by
    by_contra hkind
    rw [Kind.coerce_of_ne_flag hkind] at hne
    exact hne rfl
  refine ⟨hkind, Kind.coerce_flag hkind hcheck, ?_, ?_⟩
  all_goals
    intro htext
    rw [htext, hkind] at hne
    exact hne rfl

/-- A change that was made leaves everything as it is when it comes again. It is found to be made
already just if its value shows the text that it was given as; otherwise the value is one of truth
in another spelling, and the same value is written once more. -/
theorem set_again {name text k : String} {old : Option Value} {new : Value} {first second : Change}
    (hfirst : s.set logger d [name, text] = first) (hsecond : first.next [name, text] = second)
    (h : first.result = .ok (.updated k old new)) :
    first.store.Untouched first.logger first.disk second ∧
    ∃ key : Key, key.name = name ∧ new = key.kind.coerce text ∧
      (second.result = .ok (.unchanged name) ∧ second.events = [] ↔ new.text = text) ∧
      (new.text ≠ text → key.kind = .flag ∧ (∃ b, Flag.ofText? text = some b ∧ new = .bool b) ∧
        text ≠ "true" ∧ text ≠ "false" ∧
        second.result = .ok (.updated name (some new) new)) := by
  rw [← hfirst] at h
  obtain ⟨key, text', next, d', events, harguments, happly, hwrite, hset⟩ := write_of_updated h
  obtain ⟨heq, hcheck⟩ := arguments_of_check harguments
  cases heq
  rw [hset] at h hfirst
  cases h
  subst hfirst
  have hvalue : (s.put key.name (key.kind.coerce text)).get? key.name =
      some (key.kind.coerce text) := by rw [get?_put_name, if_pos rfl]
  by_cases htext : (key.kind.coerce text).text = text
  · have hsame : ((s.put key.name (key.kind.coerce text)).get? key.name).map Value.text =
        some text := by rw [hvalue, Option.map_some, htext]
    have hagain := (set_of_same harguments hsame next d').symm.trans hsecond
    subst hagain
    exact ⟨⟨rfl, rfl, rfl⟩, key, rfl, rfl, iff_of_true ⟨rfl, rfl⟩ htext, absurd htext⟩
  · have hne : ((s.put key.name (key.kind.coerce text)).get? key.name).map Value.text ≠
        some text := by
      rw [hvalue, Option.map_some, ne_eq, Option.some.injEq]
      exact htext
    obtain ⟨turn, hturn, hturns⟩ := Key.turns_of_check hcheck
    -- The logger is turned to where it is, and the store is the one in the file.
    obtain rfl : turn logger = next := Except.ok.inj ((hturns logger).symm.trans happly)
    have happly' := (hturns (turn logger)).trans (congrArg _ (hturn.again logger))
    have hagain := (set_of_ne harguments hne (turn logger) d').symm.trans hsecond
    rw [update_of_apply happly', put_put, write_again hwrite, hvalue] at hagain
    subst hagain
    obtain ⟨hkind, hflag, htrue, hfalse⟩ := flag_of_text_ne hcheck htext
    refine ⟨⟨rfl, rfl, rfl⟩, key, rfl, rfl, iff_of_false ?_ htext, fun _ ↦
      ⟨hkind, hflag, htrue, hfalse, rfl⟩⟩
    intro hunchanged
    cases hunchanged.1

section

open Session

theorem verbose_again :
    let first := fresh.set .start (alone freshText false) ["authproxy.verbose", "T"]
    let second := first.next ["authproxy.verbose", "T"]
    first.result = .ok (.updated "authproxy.verbose" (some (.bool false)) (.bool true)) ∧
    second.result = .ok (.updated "authproxy.verbose" (some (.bool true)) (.bool true)) ∧
    second.disk = first.disk := by
  intro first second
  have hverbose : checkArguments ["authproxy.verbose", "T"] = .ok (.verbose, "T") := by decide
  have hnew : (fresh.get? Key.verbose.name).map Value.text ≠ some "T" := by decide
  have hfirst : first.result =
      .ok (.updated "authproxy.verbose" (some (.bool false)) (.bool true)) :=
    result_set_alone plain_fresh.coherent rfl hverbose hnew .start freshText false
  have hsecond : first.next ["authproxy.verbose", "T"] = second := rfl
  obtain ⟨huntouched, key, -, -, -, hagain⟩ := set_again rfl hsecond hfirst
  obtain ⟨-, -, -, -, hsecond⟩ := hagain (by decide)
  exact ⟨hfirst, hsecond, huntouched.disk⟩

end

end Store

end ConfigKeeper

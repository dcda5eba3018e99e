import ConfigKeeper.Proofs.Readings
import ConfigKeeper.Proofs.Sessions
import ConfigKeeper.Proofs.Verdicts

namespace ConfigKeeper

/-- The values of the type in which keys of a kind are kept. -/
inductive Kind.Keeps : Kind → Value → Prop
  | flag (b : Bool) : Keeps .flag (.bool b)
  | string {kind : Kind} (s : String) : kind ≠ .flag → Keeps kind (.string s)

namespace Kind

variable {kind : Kind} {key text : String} {v : Value}

theorem coerce_flag (hkind : kind = .flag) (h : kind.check key text = .ok ()) :
    ∃ b, Flag.ofText? text = some b ∧ kind.coerce text = .bool b := by
  subst hkind
  rw [check] at h
  split at h
  · next hsome =>
    obtain ⟨b, hb⟩ := Option.isSome_iff_exists.1 hsome
    exact ⟨b, hb, by rw [coerce, hb]⟩
  · cases h

theorem coerce_of_ne_flag (h : kind ≠ .flag) (text : String) :
    kind.coerce text = .string text := by
  cases kind with
  | flag => exact absurd rfl h
  | text | logLevel | logFormat => rfl

theorem keeps_coerce (h : kind.check key text = .ok ()) : kind.Keeps (kind.coerce text) := by
  by_cases hkind : kind = .flag
  · obtain ⟨b, -, hb⟩ := coerce_flag hkind h
    rw [hb, hkind]
    exact .flag b
  · rw [coerce_of_ne_flag hkind]
    exact .string text hkind

/-- A value of the right type is told by the text it shows. -/
theorem Keeps.eq_coerce (h : kind.Keeps v) : v = kind.coerce v.text := by
  cases h with
  | flag b => cases b <;> rfl
  | string s hkind => rw [coerce_of_ne_flag hkind, Value.text]

theorem eq_coerce_iff (hcheck : kind.check key text = .ok ()) (htext : v.text = text) :
    v = kind.coerce text ↔ kind.Keeps v := by
  constructor
  · rintro rfl
    exact keeps_coerce hcheck
  · intro hkeeps
    rw [← htext]
    exact hkeeps.eq_coerce

end Kind

theorem Key.name_injective : Function.Injective Key.name := by
  intro key other h
  have hnamed := key.named?_name
  rw [h, other.named?_name, Option.some.injEq] at hnamed
  exact hnamed.symm

namespace Store

open Finding (SetsLast)
open Log (Logger)

theorem keeps_initial (env : Environment) (d : Disk) (folder : Path) (key : Key) :
    key.kind.Keeps (initial env d folder key) := by
  cases key with
  | verbose | disableLevelTruncation | padLevelText => exact .flag _
  | certFile | keyFile | logFolder | proxyAddress | proxyPort | gcloud | kubectl | logFormat
  | logLevel => exact .string _ nofun

theorem get?_initialAt (env : Environment) (d : Disk) (path : Path) (key : Key) :
    (initialAt env d path).get? key.name =
      some (initial env d (path.parent?.getD ⟨[]⟩) key) := by
  rw [get?, initialAt, initialValues, KeyMap.get?_ofList]
  cases key <;> rfl

/-- Only a document can give a key a value of another type. -/
theorem keeps_or_set {env : Environment} {d : Disk} {path : Path} {content : String} {s : Store}
    (hload : (ofText env d path content).result = .ok s) {key : Key} {v : Value}
    (hv : s.get? key.name = some v) :
    key.kind.Keeps v ∨ ∃ pairs, Yaml.read content = some (.mapping pairs) ∧
      SetsLast pairs key.name v := by
  have hinitial (h : (initialAt env d path).get? key.name = some v) : key.kind.Keeps v := by
    rw [get?_initialAt, Option.some.injEq] at h
    rw [← h]
    exact keeps_initial env d _ key
  rcases ofText_eq_ok hload with ⟨-, rfl⟩ | ⟨pairs, hread, hpairs⟩
  · exact Or.inl (hinitial hv)
  · obtain ⟨rfl, -⟩ := withPairs_eq_ok_iff.1 hpairs
    rcases (get?_overlay_found _ _ _ _).1 hv with hlast | ⟨-, hbase⟩
    · exact Or.inr ⟨pairs, hread, hlast⟩
    · exact Or.inl (hinitial hbase)

/-- Where a change is accepted, the store holds the value that the text stands for, in the type of
the key. If nothing had to be changed it holds what it held, which shows the text and is that value
just if it is of that type; if it is not, the document has set it last. -/
theorem held_of_set {env : Environment} {d d' : Disk} {path : Path} {content : String} {s : Store}
    (hload : (ofText env d path content).result = .ok s) {logger : Logger} {name text : String}
    {o : Outcome} (hset : (s.set logger d' [name, text]).result = .ok o) :
    ∃ key : Key, key.name = name ∧
      (key.kind = .flag → ∃ b, Flag.ofText? text = some b ∧ key.kind.coerce text = .bool b) ∧
      (key.kind ≠ .flag → key.kind.coerce text = .string text) ∧
      (o.isUnchanged = false →
        (s.set logger d' [name, text]).store.get? name = some (key.kind.coerce text)) ∧
      (o.isUnchanged = true → (s.set logger d' [name, text]).store = s ∧
        ∃ v, s.get? name = some v ∧ v.text = text ∧
          (v = key.kind.coerce text ↔ key.kind.Keeps v) ∧
          (¬key.kind.Keeps v → ∃ pairs, Yaml.read content = some (.mapping pairs) ∧
            SetsLast pairs name v)) := by
  have hverdict := verdict_set s logger d' [name, text]
  rw [Verdict, hset] at hverdict
  cases o with
  | unchanged _ =>
    obtain ⟨key, text', harguments, rfl, hsame, hstore, -, -⟩ := hverdict
    obtain ⟨heq, hcheck⟩ := arguments_of_check harguments
    cases heq
    obtain ⟨v, hv, htext⟩ := Option.map_eq_some_iff.1 hsame
    refine ⟨key, rfl, (Kind.coerce_flag · hcheck), (Kind.coerce_of_ne_flag · text), ?_,
      fun _ ↦ ⟨hstore, v, hv, htext, ?_, ?_⟩⟩
    · intro h
      cases h
    · exact Kind.eq_coerce_iff hcheck htext
    · exact (keeps_or_set hload hv).resolve_left
  | updated _ old new =>
    obtain ⟨key, text', harguments, rfl, -, -, -, happlied, -⟩ := hverdict
    obtain ⟨heq, hcheck⟩ := arguments_of_check harguments
    cases heq
    refine ⟨key, rfl, (Kind.coerce_flag · hcheck), (Kind.coerce_of_ne_flag · text),
      fun _ ↦ happlied.value, ?_⟩
    intro h
    cases h

section

open Session (alone result_set_alone)

def numbered : Store :=
  { fresh with values := fresh.values.insert "authproxy.proxyport" (.int 9000) }

def numberText : String := "authproxy:\n  proxyport: 9000\n"

theorem ofText_numbered : (ofText {} ⟨[], []⟩ ⟨[99]⟩ numberText).result = .ok numbered := by
  decide +kernel

theorem held_numbered :
    (numbered.set .start (alone numberText false) ["authproxy.verbose", "T"]).result =
      .ok (.updated "authproxy.verbose" (some (.bool false)) (.bool true)) ∧
    (numbered.set .start (alone numberText false) ["authproxy.verbose", "T"]).store.get?
      "authproxy.verbose" = some (.bool true) ∧
    ∃ pairs, Yaml.read numberText = some (.mapping pairs) ∧
      SetsLast pairs "authproxy.proxyport" (.int 9000) := by
  have hverbose : checkArguments ["authproxy.verbose", "T"] = .ok (.verbose, "T") := by decide
  have hne : (numbered.get? Key.verbose.name).map Value.text ≠ some "T" := by decide
  have hset := result_set_alone (coherent_of_ofText ofText_numbered) rfl hverbose hne .start
    numberText false
  obtain ⟨key, hkey, -, -, hupdated, -⟩ := held_of_set ofText_numbered hset
  obtain rfl : key = .verbose := Key.name_injective hkey
  refine ⟨hset, hupdated rfl, ?_⟩
  have hport : checkArguments ["authproxy.proxyport", "9000"] = .ok (.proxyPort, "9000") := by
    decide
  have hsame : (numbered.get? Key.proxyPort.name).map Value.text = some "9000" := by decide
  have hkept := congrArg Change.result (set_of_same hport hsame .start ⟨[], []⟩)
  obtain ⟨key, hkey, -, -, -, hunchanged⟩ := held_of_set ofText_numbered hkept
  obtain rfl : key = .proxyPort := Key.name_injective hkey
  obtain ⟨-, v, hv, -, -, hdocument⟩ := hunchanged rfl
  have hint : v = .int 9000 := Option.some.inj (hv.symm.trans rfl)
  subst hint
  exact hdocument nofun

theorem number_not_coerced :
    (ofText {} ⟨[], []⟩ ⟨[99]⟩ numberText).result = .ok numbered ∧
    (numbered.set .start (alone numberText false) ["authproxy.proxyport", "9000"]).result =
      .ok (.unchanged "authproxy.proxyport") ∧
    (numbered.set .start (alone numberText false) ["authproxy.proxyport", "9000"]).store.get?
      "authproxy.proxyport" ≠ some (Key.proxyPort.kind.coerce "9000") := by
  have harguments : checkArguments ["authproxy.proxyport", "9000"] = .ok (.proxyPort, "9000") := by
    decide
  have hsame : (numbered.get? Key.proxyPort.name).map Value.text = some "9000" := by decide
  rw [set_of_same harguments hsame]
  exact ⟨ofText_numbered, rfl, by decide⟩

end

end Store

end ConfigKeeper

import ConfigKeeper.CommandLine.Parse

namespace ConfigKeeper.CommandLine

namespace Scope

/-- A change of scopes that has nothing to do with what was given last and is still to be checked. -/
structure Aside (f : Scope → Scope) : Prop where
  pending (s : Scope) : (f s).pending = s.pending
  config (s : Scope) : (f s).config = s.config
  takes (s : Scope) (value : Bytes) :
    f { s with config := some value, pending := none } =
      { f s with config := some value, pending := none }
  names (s : Scope) (key : Key) :
    f { s with key := some key, pending := none } = { f s with key := some key, pending := none }

section

variable {f : Scope → Scope} (hf : Aside f) (s : Scope)
include hf

theorem Aside.takeConfig (value : Bytes) : (f s).takeConfig value = (s.takeConfig value).map f := by
  rw [Scope.takeConfig, Scope.takeConfig, hf.config]
  split
  · rfl
  · split
    · rfl
    · exact congrArg Except.ok (hf.takes s value).symm

theorem Aside.takeKey (w : Bytes) : (f s).takeKey w = (s.takeKey w).map f := by
  rw [Scope.takeKey, Scope.takeKey]
  cases Bytes.toString? w with
  | none => rfl
  | some name =>
    cases hkey : Key.named? name with
    | none =>
      simp only [hkey]
      rfl
    | some key =>
      simp only [hkey]
      exact congrArg Except.ok (hf.names s key).symm

/-- What was given last is in order or not as it was before, and means the same. -/
theorem Aside.settle : (f s).settle = s.settle.map f := by
  rw [Scope.settle, Scope.settle, hf.pending]
  match s.pending with
  | none | some (.option none) => rfl
  | some (.option (some value)) => exact hf.takeConfig s value
  | some (.word w) => exact hf.takeKey s w

end

theorem command_congr {s t : Scope} (hspot : t.spot = s.spot) (hkey : t.key = s.key)
    {fallback : Option Bytes} {words : List String} {c : Command}
    (h : s.command fallback words = .ok c) (fallback' : Option Bytes) :
    t.command fallback' words = .ok c := by
  rw [command] at h ⊢
  rw [hspot, hkey]
  cases hspot : s.spot with
  | program | config =>
    simp only [hspot] at h
    split at h <;> cases h
  | print | info | view | set =>
    simp only [hspot] at h ⊢
    exact h

/-- A scope that is in order at its end, around a command that was read or as the command itself. -/
inductive Finishes (fallback : Option Bytes) (s : Scope) : Option Reading → Reading → Prop
  | around {t : Scope} {words : List String} (inner : Reading) : s.settle = .ok t →
      texts? t.words = some words → (t.config.isNone && fallback == some []) = false →
      Finishes fallback s (some inner)
        ⟨inner.config.or t.config, inner.noColor || t.noColor, inner.command⟩
  | itself {t : Scope} {words : List String} {c : Command} : s.settle = .ok t →
      texts? t.words = some words → (t.config.isNone && fallback == some []) = false →
      t.command fallback words = .ok c → Finishes fallback s none ⟨t.config, t.noColor, c⟩

variable {s : Scope} {fallback : Option Bytes} {inner : Option Reading} {r : Reading}

theorem finishes_of_finish (h : s.finish fallback inner = .ok r) : s.Finishes fallback inner r := by
  rw [finish] at h
  cases hsettle : s.settle with
  | error fault =>
    simp only [hsettle] at h
    cases h
  | ok t =>
    cases htexts : texts? t.words with
    | none =>
      simp only [hsettle, htexts] at h
      cases h
    | some words =>
      simp only [hsettle, htexts] at h
      split at h
      · cases h
      · next hfile =>
        rw [Bool.not_eq_true] at hfile
        cases inner with
        | some inner =>
          cases h
          exact .around inner hsettle htexts hfile
        | none =>
          cases hcommand : t.command fallback words with
          | error fault =>
            simp only [hcommand] at h
            cases h
          | ok c =>
            simp only [hcommand] at h
            cases h
            exact .itself hsettle htexts hfile hcommand

theorem Finishes.finish (h : s.Finishes fallback inner r) : s.finish fallback inner = .ok r := by
  cases h with
  | around inner hsettle htexts hfile =>
    simp only [Scope.finish, hsettle, htexts, hfile, Bool.false_eq_true, if_false]
  | itself hsettle htexts hfile hcommand =>
    simp only [Scope.finish, hsettle, htexts, hfile, hcommand, Bool.false_eq_true, if_false]

end Scope

/-- The arguments from a scope on say all that they have to. -/
inductive Reads (fallback : Option Bytes) : Scope → List Bytes → Reading → Prop
  | nil {s : Scope} {r : Reading} : s.Finishes fallback none r → Reads fallback s [] r
  | goOn {s t : Scope} {a : Bytes} {rest : List Bytes} {r : Reading} : s.move a = .continue t →
      Reads fallback t rest r → Reads fallback s (a :: rest) r
  | descend {s : Scope} {a : Bytes} {rest : List Bytes} {spot : Spot} {inner r : Reading} :
      s.move a = .descend spot → Reads fallback { spot } rest inner →
      s.Finishes fallback (some inner) r → Reads fallback s (a :: rest) r
  | collect {s t : Scope} {a : Bytes} {rest : List Bytes} {r : Reading} : s.move a = .collect t →
      { t with words := a :: rest }.Finishes fallback none r → Reads fallback s (a :: rest) r

variable {s : Scope} {fallback : Option Bytes} {rest : List Bytes} {r : Reading}

theorem reads_of_read (h : read fallback s rest = .ok r) : Reads fallback s rest r := by
  induction rest generalizing s r with
  | nil => exact .nil (Scope.finishes_of_finish h)
  | cons a rest ih =>
    rw [read] at h
    cases hmove : s.move a with
    | «continue» t =>
      simp only [hmove] at h
      exact .goOn hmove (ih h)
    | descend spot =>
      simp only [hmove] at h
      cases hinner : read fallback { spot } rest with
      | error fault =>
        simp only [hinner] at h
        cases h
      | ok inner =>
        simp only [hinner] at h
        exact .descend hmove (ih hinner) (Scope.finishes_of_finish h)
    | explain =>
      simp only [hmove] at h
      cases h
    | collect t =>
      simp only [hmove] at h
      exact .collect hmove (Scope.finishes_of_finish h)
    | fail fault =>
      simp only [hmove] at h
      cases h

theorem Reads.read (h : Reads fallback s rest r) : read fallback s rest = .ok r := by
  induction h with
  | nil hfinishes => exact hfinishes.finish
  | goOn hmove _ ih => simp only [CommandLine.read, hmove, ih]
  | descend hmove _ hfinishes ih => simp only [CommandLine.read, hmove, ih, hfinishes.finish]
  | collect hmove hfinishes => simp only [CommandLine.read, hmove, hfinishes.finish]

theorem Scope.Finishes.withoutFallback {inner : Option Reading} (h : s.Finishes fallback inner r) :
    s.Finishes none inner r := by
  have hfile (t : Scope) : (t.config.isNone && (none : Option Bytes) == some []) = false :=
    Bool.and_false _
  cases h with
  | around inner hsettle htexts _ => exact .around inner hsettle htexts (hfile _)
  | itself hsettle htexts _ hcommand =>
    exact .itself hsettle htexts (hfile _) (command_congr rfl rfl hcommand none)

/-- What is read from the arguments does not hang on the file that the environment names. -/
theorem Reads.withoutFallback (h : Reads fallback s rest r) : Reads none s rest r := by
  induction h with
  | nil hfinishes => exact .nil hfinishes.withoutFallback
  | goOn hmove _ ih => exact .goOn hmove ih
  | descend hmove _ hfinishes ih => exact .descend hmove ih hfinishes.withoutFallback
  | collect hmove hfinishes => exact .collect hmove hfinishes.withoutFallback

theorem parse_of_configFile {env : Environment} {arguments : List Bytes} {i : Invocation}
    (h : parse env arguments = .ok i) :
    ∃ j, parse { env with configFile := none } arguments = .ok j ∧
      i = { j with config := j.config.or (env.configFile.map Path.mk) } := by
  rw [parse] at h
  cases hread : read env.configFile { spot := .program } arguments with
  | error fault =>
    rw [hread] at h
    cases h
  | ok r =>
    have halone := (reads_of_read hread).withoutFallback.read
    rw [hread] at h
    cases h
    refine ⟨⟨r.config.map Path.mk, r.noColor, r.command⟩, ?_, ?_⟩
    · rw [parse, halone]
      simp only [Option.or_none]
    · simp only [Option.map_or]

end ConfigKeeper.CommandLine

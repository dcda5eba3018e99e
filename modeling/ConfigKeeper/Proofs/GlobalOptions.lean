import ConfigKeeper.Proofs.Pending

namespace ConfigKeeper.CommandLine

variable {s : Scope} {fallback : Option Bytes}

/-- An option that holds for every command. -/
inductive GlobalOption
  | noColor
  | config (path : Bytes)

def GlobalOption.words : GlobalOption → List Bytes
  | .noColor => [.ofString "--no-color"]
  | .config path => [.ofString "--config", path]

def optionWords (options : List GlobalOption) : List Bytes := options.flatMap GlobalOption.words

/-- A word that can be the value of an option: one with a hyphen in front is an option itself, unless
it is nothing else. -/
def isValue (w : Bytes) : Bool := !w.isEmpty && (w.head? != some hyphen || w == [hyphen])

/-- What the options of a command line come to. -/
structure Chosen where
  file : Option Bytes := none
  noColor : Bool := false

def Chosen.add? (c : Chosen) : GlobalOption → Option Chosen
  | .noColor => if c.noColor then none else some { c with noColor := true }
  | .config path =>
    if c.file.isNone && isValue path then some { c with file := some path } else none

def chosen? (options : List GlobalOption) : Option Chosen := options.foldlM Chosen.add? {}

theorem Shape.of_eq_word_iff {w : Bytes} :
    Shape.of w = .word ↔ w.head? ≠ some hyphen ∨ w = [hyphen] := by
  fun_cases Shape.of w
  case case5 hnone =>
    refine iff_of_true rfl (Or.inl fun hhead ↦ ?_)
    obtain ⟨rest, heq⟩ := List.head?_eq_some_iff.1 hhead
    exact hnone rest heq
  all_goals simp_all [hyphen]

theorem isValue_of_word {w : Bytes} (h : Shape.of w = .word) : isValue w = !w.isEmpty := by
  rw [Shape.of_eq_word_iff] at h
  have hword : (w.head? != some hyphen || w == [hyphen]) = true := by
    rwa [Bool.or_eq_true, bne_iff_ne, beq_iff_eq]
  rw [isValue, hword, Bool.and_true]

theorem isValue_of_ne_word {w : Bytes} (h : Shape.of w ≠ .word) : isValue w = false := by
  rw [ne_eq, Shape.of_eq_word_iff, not_or, Classical.not_not] at h
  rw [isValue, h.1, beq_eq_false_iff_ne.2 h.2]
  exact Bool.and_false _

namespace Scope

/-- Options can be given here, and none is open. -/
structure Open (s : Scope) : Prop where
  pending : s.pending = none
  ended : s.optionsEnded = false
  spot : s.spot ≠ .set

def choosing (s : Scope) (c : Chosen) : Scope := { s with config := c.file, noColor := c.noColor }

theorem Open.choosing (h : s.Open) (c : Chosen) : (s.choosing c).Open :=
  ⟨h.pending, h.ended, h.spot⟩

theorem Open.settled (h : s.Open) (next : Scope → Move) : s.settled next = next s := by
  rw [Scope.settled, settle_of_none h.pending]

theorem Open.move {a name : Bytes} {value : Option Bytes} (h : s.Open)
    (hshape : Shape.of a = .long name value) (hhelp : a ≠ help)
    (hsubcommand : ∀ spot, Spot.subcommand? spot a = none) : s.move a = s.long a name value := by
  have hvalue : (a == help) = false := beq_eq_false_iff_ne.2 hhelp
  rw [Scope.move, h.ended, hsubcommand, hvalue, hshape, Bool.and_false]
  simp only [Option.isSome_none, Bool.and_false, Bool.false_eq_true, if_false]

theorem Open.move_noColor (h : s.Open) : s.move (.ofString "--no-color") =
    if s.noColor then .fail .repeatedOption else .continue { s with noColor := true } := by
  have hsubcommand (spot : Spot) : spot.subcommand? (.ofString "--no-color") = none := by
    cases spot <;> rfl
  have hshape : Shape.of (.ofString "--no-color") = .long (.ofString "no-color") none := by decide
  have hlong : s.long (.ofString "--no-color") (.ofString "no-color") none =
      s.flag none fun s ↦
        if s.noColor then .fail .repeatedOption else .continue { s with noColor := true } := rfl
  rw [h.move hshape (by decide) hsubcommand, hlong, flag]
  exact h.settled _

def waiting (s : Scope) : Scope := { s with pending := some (.option none) }

theorem settle_waiting (s : Scope) : s.waiting.settle = .error .invalidValue := rfl

theorem Open.move_config (h : s.Open) : s.move (.ofString "--config") = .continue s.waiting := by
  have hsubcommand (spot : Spot) : spot.subcommand? (.ofString "--config") = none := by
    cases spot <;> rfl
  have hshape : Shape.of (.ofString "--config") = .long (.ofString "config") none := by decide
  rw [h.move hshape (by decide) hsubcommand]
  exact h.settled _

theorem Open.awaitsValue_waiting (h : s.Open) : s.waiting.awaitsValue = true := by
  rw [awaitsValue, waiting, h.ended]
  rfl

theorem Open.move_waiting_of_word (h : s.Open) {path : Bytes} (hshape : Shape.of path = .word) :
    s.waiting.move path = .continue { s with pending := some (.option (some path)) } := by
  have hended : s.waiting.optionsEnded = false := h.ended
  rw [Scope.move, hended, h.awaitsValue_waiting, hshape, valueOrWord, h.awaitsValue_waiting]
  rfl

/-- The file is named once and not by nothing. -/
theorem Open.settle_given (h : s.Open) {path : Bytes} (hshape : Shape.of path = .word) :
    let given : Scope := { s with pending := some (.option (some path)) }
    (s.config.isNone && isValue path) = true ∧ given.settle = .ok { s with config := some path } ∨
      (s.config.isNone && isValue path) = false ∧ ∃ fault, given.settle = .error fault := by
  obtain ⟨spot, config, noColor, pending, key, words, optionsEnded⟩ := s
  obtain rfl : pending = none := h.pending
  rw [isValue_of_word hshape]
  cases config with
  | some file => exact Or.inr ⟨rfl, _, rfl⟩
  | none =>
    cases path with
    | nil => exact Or.inr ⟨rfl, _, rfl⟩
    | cons b rest => exact Or.inl ⟨rfl, rfl⟩

theorem Open.passes_waiting (h : s.Open) {path : Bytes} (hshape : Shape.of path ≠ .word) :
    s.waiting.Passes (s.waiting.move path) := by
  have hended : s.waiting.optionsEnded = false := h.ended
  have hset : s.waiting.spot = .set → s.waiting.awaitsValue = false := fun hset ↦
    absurd hset h.spot
  rw [Scope.move, hended, h.awaitsValue_waiting]
  cases hpath : Shape.of path with
  | endOfOptions => exact .ended
  | long name value => exact .fails (long_fails s.settle_waiting hset path name value)
  | short letters => exact .fails (short_fails s.settle_waiting hset path letters)
  | word => exact absurd hpath hshape

end Scope

theorem read_config (h : s.Open) (path : Bytes) (rest : List Bytes) :
    (read fallback s (.ofString "--config" :: path :: rest)).toOption =
      if s.config.isNone && isValue path then
        (read fallback { s with config := some path } rest).toOption
      else none := by
  rw [read, h.move_config]
  by_cases hshape : Shape.of path = .word
  · simp only [read, h.move_waiting_of_word hshape]
    rcases h.settle_given hshape with ⟨htrue, hgiven⟩ | ⟨hfalse, fault, hgiven⟩
    · simp only [read_of_settle hgiven, htrue, if_true]
    · simp only [read_of_unsettled hgiven rfl, hfalse, Bool.false_eq_true, if_false]
  · rw [isValue_of_ne_word hshape, Bool.and_false, if_neg Bool.false_ne_true]
    have hended := settle_ended_of_error s.settle_waiting
    exact read_of_passes s.settle_waiting (h.passes_waiting hshape)
      (read_of_unsettled hended (Bool.and_false _) rest)

theorem read_option (h : s.Open) (c : Chosen) (o : GlobalOption) (rest : List Bytes) :
    (read fallback (s.choosing c) (o.words ++ rest)).toOption =
      (c.add? o).bind fun next ↦ (read fallback (s.choosing next) rest).toOption := by
  cases o with
  | noColor =>
    rw [GlobalOption.words, List.singleton_append, read, (h.choosing c).move_noColor, Chosen.add?]
    cases hcolour : c.noColor with
    | true => simp [Scope.choosing, hcolour, Except.toOption]
    | false => simp [Scope.choosing, hcolour]
  | config path =>
    rw [GlobalOption.words, List.cons_append, List.singleton_append, read_config (h.choosing c),
      Chosen.add?]
    have hfile : (s.choosing c).config.isNone = c.file.isNone := rfl
    rw [hfile]
    split <;> rfl

theorem read_options (h : s.Open) (c : Chosen) (options : List GlobalOption) (rest : List Bytes) :
    (read fallback (s.choosing c) (optionWords options ++ rest)).toOption =
      (options.foldlM Chosen.add? c).bind fun next ↦
        (read fallback (s.choosing next) rest).toOption := by
  induction options generalizing c with
  | nil => rfl
  | cons o options ih =>
    rw [optionWords, List.flatMap_cons, List.append_assoc, read_option h, List.foldlM_cons]
    cases c.add? o with
    | none => rfl
    | some next => exact ih next

/-- What is read of a command, with the options around it. An empty name in the environment is at
fault wherever no file is named. -/
def within (fallback : Option Bytes) (c : Chosen) (r : Reading) : Option Reading :=
  if c.file.isNone && fallback == some [] then none
  else some ⟨r.config.or c.file, r.noColor || c.noColor, r.command⟩

theorem finish_around (hpending : s.pending = none) (hwords : s.words = []) (r : Reading) :
    (s.finish fallback (some r)).toOption = within fallback ⟨s.config, s.noColor⟩ r := by
  simp only [Scope.finish, Scope.settle_of_none hpending, hwords, texts?, within]
  split <;> rfl

theorem finish_itself (hpending : s.pending = none) {words : List String}
    (hwords : texts? s.words = some words) {c : Command}
    (hcommand : s.command fallback words = .ok c) :
    (s.finish fallback none).toOption =
      within fallback ⟨s.config, s.noColor⟩ ⟨none, false, c⟩ := by
  simp only [Scope.finish, Scope.settle_of_none hpending, hwords, hcommand, within]
  split <;> rfl

theorem read_descend {a : Bytes} {spot : Spot} (hmove : s.move a = .descend spot)
    (hpending : s.pending = none) (hwords : s.words = []) (rest : List Bytes) :
    (read fallback s (a :: rest)).toOption =
      (read fallback { spot } rest).toOption.bind (within fallback ⟨s.config, s.noColor⟩) := by
  rw [read, hmove]
  cases hinner : read fallback { spot } rest with
  | error f => simp only [hinner]; rfl
  | ok r =>
    simp only [hinner]
    exact finish_around hpending hwords r

/-- The commands whose words are counted: behind them options can follow. -/
inductive Counted
  | print
  | info
  | view (key : Key)

namespace Counted

def command : Counted → Command
  | .print => .print
  | .info => .info
  | .view key => .view key

def words : Counted → List Bytes
  | .print => [.ofString "print"]
  | .info => [.ofString "info"]
  | .view key => [.ofString "view", .ofString key.name]

def scope : Counted → Scope
  | .print => { spot := .print }
  | .info => { spot := .info }
  | .view key => { spot := .view, key := some key }

theorem open_scope (c : Counted) : c.scope.Open := by
  cases c with
  | print | info | view key => exact ⟨rfl, rfl, fun h ↦ by cases h⟩

theorem read_words (c : Counted) (rest : List Bytes) :
    (read fallback { spot := .config } (c.words ++ rest)).toOption =
      (read fallback c.scope rest).toOption.bind (within fallback {}) := by
  cases c with
  | print => exact read_descend rfl rfl rfl rest
  | info => exact read_descend rfl rfl rfl rest
  | view key =>
    have hmove : ({ spot := .view } : Scope).move (.ofString key.name) =
        .continue { spot := .view, pending := some (.word (.ofString key.name)) } := by
      cases key <;> rfl
    have hsettle : Scope.settle { spot := .view, pending := some (.word (.ofString key.name)) } =
        .ok (Counted.view key).scope := by
      simp only [Scope.settle, Scope.takeKey, Bytes.toString?_ofString, Key.named?_name]
      rfl
    rw [words, List.cons_append, List.singleton_append, read_descend rfl rfl rfl, read, hmove]
    simp only [read_of_settle hsettle]

theorem finish_scope (c : Counted) (chosen : Chosen) :
    ((c.scope.choosing chosen).finish fallback none).toOption =
      within fallback chosen ⟨none, false, c.command⟩ := by
  cases c with
  | print | info | view key => exact finish_itself rfl rfl rfl

theorem read_options (c : Counted) (options : List GlobalOption) :
    (read fallback c.scope (optionWords options)).toOption =
      (chosen? options).bind fun chosen ↦ within fallback chosen ⟨none, false, c.command⟩ := by
  have hscope : c.scope = c.scope.choosing {} := by cases c <;> rfl
  have hoptions : (read fallback (c.scope.choosing {}) (optionWords options ++ [])).toOption = _ :=
    CommandLine.read_options c.open_scope {} options []
  rw [List.append_nil] at hoptions
  rw [hscope, hoptions, chosen?]
  simp only [read, finish_scope]

end Counted

theorem read_set {key : Bytes} (h : key.head? ≠ some hyphen) (words : List Bytes) :
    (read fallback { spot := .config } (.ofString "set" :: key :: words)).toOption =
      (texts? (key :: words)).bind fun texts ↦
        (within fallback {} ⟨none, false, .set texts⟩).bind (within fallback {}) := by
  have hmove : ({ spot := .set } : Scope).move key = .collect { spot := .set } := by
    rw [Scope.move, Shape.of_eq_word_iff.2 (Or.inl h)]
    rfl
  rw [read_descend rfl rfl rfl, read, hmove]
  cases htexts : texts? (key :: words) with
  | none =>
    have hwords : Scope.finish { spot := .set, words := key :: words } fallback none =
        .error .invalidText := by
      simp only [Scope.finish, Scope.settle, htexts]
    simp only [hwords]
    rfl
  | some texts =>
    have hfinish : (Scope.finish { spot := .set, words := key :: words } fallback none).toOption =
        within fallback {} ⟨none, false, .set texts⟩ := finish_itself rfl htexts rfl
    simp only [hfinish]
    rfl

def Reading.invocation (env : Environment) (r : Reading) : Invocation :=
  ⟨(r.config.or env.configFile).map Path.mk, r.noColor, r.command⟩

theorem parse_eq_read (env : Environment) (arguments : List Bytes) :
    (parse env arguments).toOption =
      (read env.configFile { spot := .program } arguments).toOption.map
        (Reading.invocation env) := by
  rw [parse]
  cases read env.configFile { spot := .program } arguments <;> rfl

/-- The invocation that a command asks for with what was chosen, unless the environment names a file
by nothing. -/
def Chosen.invocation? (env : Environment) (c : Command) (chosen : Chosen) : Option Invocation :=
  if env.configFile = some [] then none
  else some ⟨(chosen.file.or env.configFile).map Path.mk, chosen.noColor, c⟩

def asked? (env : Environment) (options : List GlobalOption) (c : Command) : Option Invocation :=
  (chosen? options).bind (Chosen.invocation? env c)

theorem within_of_ne_empty (h : fallback ≠ some []) (chosen : Chosen) (r : Reading) :
    within fallback chosen r =
      some ⟨r.config.or chosen.file, r.noColor || chosen.noColor, r.command⟩ := by
  rw [within, beq_eq_false_iff_ne.2 h, Bool.and_false]
  rfl

/-- Between the options on either side stands a command for which nothing was chosen. -/
theorem invocation_of_within (env : Environment) (inner outer : Chosen) (c : Command) :
    (((within env.configFile inner ⟨none, false, c⟩).bind (within env.configFile {})).bind
      (within env.configFile outer)).map (Reading.invocation env) =
        Chosen.invocation? env c ⟨inner.file.or outer.file, inner.noColor || outer.noColor⟩ := by
  rw [Chosen.invocation?]
  by_cases hempty : env.configFile = some []
  · rw [if_pos hempty, hempty]
    cases within (some []) inner ⟨none, false, c⟩ <;> rfl
  · simp only [if_neg hempty, within_of_ne_empty hempty, Option.bind_some, Option.map_some,
      Reading.invocation, Option.none_or, Option.or_none, Bool.false_or, Bool.or_false]

def inConfig (words : List Bytes) : List Bytes := .ofString "config" :: words

theorem parse_options (env : Environment) (options : List GlobalOption) (words : List Bytes) :
    (parse env (optionWords options ++ inConfig words)).toOption =
      (chosen? options).bind fun chosen ↦
        ((read env.configFile { spot := .config } words).toOption.bind
          (within env.configFile chosen)).map (Reading.invocation env) := by
  have hopen : Scope.Open { spot := .program } := ⟨rfl, rfl, fun h ↦ by cases h⟩
  have hread : (read env.configFile (Scope.choosing { spot := .program } {})
      (optionWords options ++ inConfig words)).toOption = _ :=
    read_options hopen {} options (inConfig words)
  have hdescend (chosen : Chosen) :
      (read env.configFile (Scope.choosing { spot := .program } chosen) (inConfig words)).toOption =
        (read env.configFile { spot := .config } words).toOption.bind
          (within env.configFile chosen) := read_descend rfl rfl rfl words
  have hprogram : ({ spot := .program } : Scope) = Scope.choosing { spot := .program } {} := rfl
  simp only [hdescend] at hread
  rw [parse_eq_read, hprogram, hread, chosen?]
  cases options.foldlM Chosen.add? {} <;> rfl

theorem parse_inConfig (env : Environment) (words : List Bytes) :
    (parse env (inConfig words)).toOption =
      ((read env.configFile { spot := .config } words).toOption.bind
        (within env.configFile {})).map (Reading.invocation env) :=
  parse_options env [] words

namespace Counted

variable (env : Environment) (options : List GlobalOption) (c : Counted)

theorem parse_behind_options : (parse env (optionWords options ++ inConfig c.words)).toOption =
    asked? env options c.command := by
  have hwords : (read env.configFile { spot := .config } (c.words ++ [])).toOption = _ :=
    c.read_words []
  have hscope : (read env.configFile c.scope []).toOption = _ := c.read_options []
  rw [List.append_nil] at hwords
  rw [parse_options, hwords, asked?]
  refine Option.bind_congr fun chosen _ ↦ ?_
  have hinvocation := invocation_of_within env {} chosen c.command
  rw [Option.none_or, Bool.false_or] at hinvocation
  rw [← hinvocation]
  congr 3

theorem parse_before_options : (parse env (inConfig (c.words ++ optionWords options))).toOption =
    asked? env options c.command := by
  rw [parse_inConfig, read_words, read_options, asked?]
  cases chosen? options with
  | none => rfl
  | some chosen =>
    have hinvocation := invocation_of_within env chosen {} c.command
    rw [Option.or_none, Bool.or_false] at hinvocation
    exact hinvocation

end Counted

/-- All words from the first one on are taken by `set`, unless options stand in front of that. -/
theorem parse_set (env : Environment) (options : List GlobalOption) {key : Bytes}
    (h : key.head? ≠ some hyphen) (words : List Bytes) :
    (parse env (optionWords options ++ inConfig (.ofString "set" :: key :: words))).toOption =
      (texts? (key :: words)).bind fun texts ↦ asked? env options (.set texts) := by
  rw [parse_options, read_set h]
  cases texts? (key :: words) with
  | none => cases chosen? options <;> rfl
  | some texts =>
    simp only [Option.bind_some, asked?]
    refine Option.bind_congr fun chosen _ ↦ ?_
    have hinvocation := invocation_of_within env {} chosen (.set texts)
    rw [Option.none_or, Bool.false_or] at hinvocation
    exact hinvocation

/-- The options hold for every command they stand in front of. Behind it they hold as well where the
words of the command are counted; `set` takes all words that follow, and they are options no longer. -/
theorem options_around_commands (env : Environment) (options : List GlobalOption) :
    (∀ c : Counted,
      (parse env (optionWords options ++ inConfig c.words)).toOption =
        asked? env options c.command ∧
      (parse env (inConfig c.words ++ optionWords options)).toOption =
        asked? env options c.command) ∧
    ∀ (key : Bytes) (words : List Bytes), key.head? ≠ some hyphen →
      (parse env (optionWords options ++ inConfig (.ofString "set" :: key :: words))).toOption =
        (texts? (key :: words)).bind (fun texts ↦ asked? env options (.set texts)) ∧
      (parse env (inConfig (.ofString "set" :: key :: words) ++ optionWords options)).toOption =
        (texts? (key :: words ++ optionWords options)).bind
          (fun texts ↦ asked? env [] (.set texts)) := by
  refine ⟨fun c ↦ ⟨c.parse_behind_options env options, c.parse_before_options env options⟩,
    fun key words hkey ↦ ⟨parse_set env options hkey words, ?_⟩⟩
  exact parse_set env [] hkey (words ++ optionWords options)

section

def colourless : List GlobalOption := [.noColor, .config (.ofString "p")]

theorem colourless_around_set :
    (parse {} (optionWords colourless ++ inConfig (["set", "a", "b"].map .ofString))).toOption =
      some ⟨some (.ofString "p"), true, .set ["a", "b"]⟩ ∧
    (parse {} (inConfig (["set", "a", "b"].map .ofString) ++ optionWords colourless)).toOption =
      some ⟨none, false, .set ["a", "b", "--no-color", "--config", "p"]⟩ := by
  have hkey : (Bytes.ofString "a").head? ≠ some hyphen := by decide
  have h := (options_around_commands {} colourless).2 _ [.ofString "b"] hkey
  exact ⟨h.1.trans (by decide), h.2.trans (by decide)⟩

/-- An option behind the words of `set` is one of them. -/
theorem option_among_words :
    parse {} (["--no-color", "config", "set", "logging.level", "debug"].map .ofString) =
      .ok ⟨none, true, .set ["logging.level", "debug"]⟩ ∧
    parse {} (["config", "set", "logging.level", "debug", "--no-color"].map .ofString) =
      .ok ⟨none, false, .set ["logging.level", "debug", "--no-color"]⟩ ∧
    parse {} (["--no-color", "config", "set", "logging.level", "debug"].map .ofString) ≠
      parse {} (["config", "set", "logging.level", "debug", "--no-color"].map .ofString) := by
  decide

end

end ConfigKeeper.CommandLine

import ConfigKeeper.CommandLine.Invocation

namespace ConfigKeeper.CommandLine

inductive Spot
  | program
  | config
  | print
  | info
  | view
  | set
  deriving DecidableEq, Repr

namespace Spot

def subcommands : Spot → List (Bytes × Spot)
  | .program => [(.ofString "config", .config)]
  | .config =>
    [(.ofString "print", .print), (.ofString "info", .info), (.ofString "view", .view),
     (.ofString "set", .set)]
  | _ => []

def subcommand? (spot : Spot) (name : Bytes) : Option Spot := spot.subcommands.lookup name

def isGroup (spot : Spot) : Bool := !spot.subcommands.isEmpty

end Spot

def help : Bytes := .ofString "help"

/-- What was given last and has still to be checked. -/
inductive Pending
  | option (value : Option Bytes)
  | word (w : Bytes)
  deriving DecidableEq, Repr

structure Scope where
  spot : Spot
  config : Option Bytes := none
  noColor : Bool := false
  pending : Option Pending := none
  key : Option Key := none
  words : List Bytes := []
  /-- Two hyphens came, so that options have ended. -/
  optionsEnded : Bool := false
  deriving DecidableEq, Repr

namespace Scope

/-- The next argument is the value of an option. -/
def awaitsValue (s : Scope) : Bool := s.pending == some (.option none) && !s.optionsEnded

def hasWord (s : Scope) : Bool :=
  s.key.isSome ||
    match s.pending with
    | some (.word _) => true
    | _ => false

/-- The file of the settings, which is named once and not by nothing. -/
def takeConfig (s : Scope) (value : Bytes) : Except UsageFault Scope :=
  if s.config.isSome then .error .repeatedOption
  else if value.isEmpty then .error .invalidValue
  else .ok { s with config := some value, pending := none }

def takeKey (s : Scope) (w : Bytes) : Except UsageFault Scope :=
  match Bytes.toString? w with
  | none => .error .invalidText
  | some name =>
    match Key.named? name with
    | none => .error .invalidValue
    | some key => .ok { s with key := some key, pending := none }

def settle (s : Scope) : Except UsageFault Scope :=
  match s.pending with
  | none => .ok s
  | some (.option none) => .error .invalidValue
  | some (.option (some value)) => s.takeConfig value
  | some (.word w) => s.takeKey w

end Scope

end ConfigKeeper.CommandLine

import ConfigKeeper.CommandLine.Scope

namespace ConfigKeeper.CommandLine

def hyphen : UInt8 := 45

def equalsSign : UInt8 := 61

inductive Shape
  | word
  /-- Two hyphens alone. -/
  | endOfOptions
  | long (name : Bytes) (value : Option Bytes)
  | short (letters : Bytes)
  deriving DecidableEq, Repr

namespace Shape

def of : Bytes → Shape
  | [45, 45] => .endOfOptions
  | 45 :: 45 :: rest =>
    .long (rest.takeWhile (· != equalsSign))
      (match rest.dropWhile (· != equalsSign) with
        | [] => none
        | _ :: value => some value)
  | [45] => .word
  | 45 :: letters => .short letters
  | _ => .word

end Shape

inductive Move
  | continue (s : Scope)
  | descend (spot : Spot)
  /-- The rest names the command that help is wanted for. -/
  | explain
  /-- This argument and the rest are words. -/
  | collect (s : Scope)
  | fail (fault : UsageFault)

namespace Scope

/-- Goes on once what was given last is in order. -/
def settled (s : Scope) (next : Scope → Move) : Move :=
  match s.settle with
  | .ok s => next s
  | .error fault => .fail fault

def word (s : Scope) (a : Bytes) : Move :=
  match s.spot with
  | .print | .info => .fail .unknownArgument
  | .view =>
    if s.hasWord then .fail .unknownArgument
    else s.settled fun s ↦ .continue { s with pending := some (.word a) }
  | .set => s.settled .collect
  | .program | .config =>
    if s.optionsEnded && ((s.spot.subcommand? a).isSome || a == help) then .fail .unknownArgument
    else .fail .invalidSubcommand

/-- The argument is the value that an option waits for, or else a word. -/
def valueOrWord (s : Scope) (a : Bytes) : Move :=
  if s.awaitsValue then .continue { s with pending := some (.option (some a)) } else s.word a

def flag (s : Scope) (value : Option Bytes) (next : Scope → Move) : Move :=
  if value.isSome then .fail .surplusValue else s.settled next

def long (s : Scope) (a name : Bytes) (value : Option Bytes) : Move :=
  if name == .ofString "config" then
    s.settled fun s ↦
      match value with
      | none => .continue { s with pending := some (.option none) }
      | some value =>
        match s.takeConfig value with
        | .ok s => .continue s
        | .error fault => .fail fault
  else if name == .ofString "no-color" then
    s.flag value fun s ↦
      if s.noColor then .fail .repeatedOption else .continue { s with noColor := true }
  else if name == help then s.flag value fun _ ↦ .fail .helpWanted
  else if name == .ofString "version" && s.spot == .program then
    s.flag value fun _ ↦ .fail .versionWanted
  else if s.spot == .set && (Bytes.toString? name).isSome then s.valueOrWord a
  else .fail .unknownArgument

def short (s : Scope) (a letters : Bytes) : Move :=
  if s.spot == .set && letters.any (· != 104) then s.valueOrWord a
  else match letters with
    | 104 :: _ => s.settled fun _ ↦ .fail .helpWanted
    | 86 :: _ =>
      if s.spot == .program then s.settled fun _ ↦ .fail .versionWanted
      else .fail .unknownArgument
    | _ => .fail .unknownArgument

def move (s : Scope) (a : Bytes) : Move :=
  if s.optionsEnded then s.word a
  else if !s.awaitsValue && (s.spot.subcommand? a).isSome then
    match s.spot.subcommand? a with
    | some spot => .descend spot
    | none => .fail .invalidSubcommand
  else if !s.awaitsValue && s.spot.isGroup && a == help then .explain
  else match Shape.of a with
    | .endOfOptions => .continue { s with optionsEnded := true }
    | .long name value => s.long a name value
    | .short letters => s.short a letters
    | .word => s.valueOrWord a

end Scope

end ConfigKeeper.CommandLine

import ConfigKeeper.CommandLine.Argument
import ConfigKeeper.Environment

namespace ConfigKeeper.CommandLine

structure Reading where
  config : Option Bytes
  noColor : Bool
  command : Command
  deriving DecidableEq, Repr

/-- Whether help can be had for the command these words name. -/
def canExplain (spot : Spot) : List Bytes → Bool
  | [] => true
  | w :: rest =>
    if spot.isGroup && w == help then rest.isEmpty
    else match spot.subcommand? w with
      | some inner => canExplain inner rest
      | none => false

def texts? : List Bytes → Option (List String)
  | [] => some []
  | w :: rest =>
    match Bytes.toString? w, texts? rest with
    | some s, some list => some (s :: list)
    | _, _ => none

namespace Scope

def command (s : Scope) (fallback : Option Bytes) (words : List String) :
    Except UsageFault Command :=
  match s.spot with
  | .program | .config =>
    if s.config.isNone && !s.noColor && fallback.isNone then .error .nothingAsked
    else .error .missingSubcommand
  | .print => .ok .print
  | .info => .ok .info
  | .view =>
    match s.key with
    | some key => .ok (.view key)
    | none => .error .missingArgument
  | .set => .ok (.set words)

/-- Checks a scope at its end. Where no file is named `fallback` names it. -/
def finish (s : Scope) (fallback : Option Bytes) (inner : Option Reading) :
    Except UsageFault Reading :=
  match s.settle with
  | .error fault => .error fault
  | .ok s =>
    match texts? s.words with
    | none => .error .invalidText
    | some words =>
      if s.config.isNone && fallback == some [] then .error .invalidValue
      else match inner with
        | some r => .ok ⟨r.config.or s.config, r.noColor || s.noColor, r.command⟩
        | none =>
          match s.command fallback words with
          | .ok command => .ok ⟨s.config, s.noColor, command⟩
          | .error fault => .error fault

end Scope

def read (fallback : Option Bytes) (s : Scope) : List Bytes → Except UsageFault Reading
  | [] => s.finish fallback none
  | a :: rest =>
    match s.move a with
    | .continue s => read fallback s rest
    | .descend spot =>
      match read fallback { spot } rest with
      | .ok r => s.finish fallback (some r)
      | .error fault => .error fault
    | .explain => .error (if canExplain s.spot rest then .helpWanted else .invalidSubcommand)
    | .collect s => { s with words := a :: rest }.finish fallback none
    | .fail fault => .error fault

def parse (env : Environment) (arguments : List Bytes) : Except UsageFault Invocation :=
  match read env.configFile { spot := .program } arguments with
  | .ok r =>
    .ok { config := (r.config.or env.configFile).map Path.mk, noColor := r.noColor,
          command := r.command }
  | .error fault => .error fault

end ConfigKeeper.CommandLine

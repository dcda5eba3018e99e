import ConfigKeeper.Disk.Fault
import ConfigKeeper.Log.Level
import ConfigKeeper.Log.Format
import ConfigKeeper.Text.Shown

namespace ConfigKeeper

inductive ArgumentFault
  /-- There are not two arguments, a key and a value. -/
  | arity
  | unknownKey (name : String)
  | notFlag (key : String)
  | notLevelName
  | notFormatName
  | notLevel (text : String)
  | other (text : String)
  deriving DecidableEq, Repr

namespace ArgumentFault

def text : ArgumentFault → String
  | .arity => "requires both a config key and a new value"
  | .unknownKey name => s!"invalid config key {name}"
  | .notFlag key => s!"the {key} value must be either true or false"
  | .notLevelName => "logging level must be one of " ++ Text.shownList Log.Level.names
  | .notFormatName => "logging format must be one of " ++ Text.shownList Log.Format.names
  | .notLevel text => s!"not a valid logging level: {Text.shown text}"
  | .other text => text

end ArgumentFault

inductive DocumentFault
  /-- The text is no document; where it breaks off is not kept. -/
  | unreadable
  | notMapping
  /-- A key has a value and so has another key under it. -/
  | nested (parent child : String)
  /-- A key cannot be written beside the keys before it. -/
  | clash (key : String)
  | other (text : String)
  deriving DecidableEq, Repr

namespace DocumentFault

def text : DocumentFault → String
  | .unreadable => "<yaml>"
  | .notMapping => "configuration file must contain a mapping at the top level"
  | .nested parent child =>
    s!"configuration key {parent} holds a value but {child} is also defined under it"
  | .clash key => s!"configuration key {key} conflicts with another key sharing its prefix"
  | .other text => text

end DocumentFault

inductive Error
  | arguments (fault : ArgumentFault)
  | io (context : String) (fault : Disk.Fault)
  | persistence (context : String) (cause : Error)
  | configuration (text : String)
  | document (fault : DocumentFault)
  | logging (text : String)
  /-- A cause that is known by its text alone. -/
  | other (text : String)
  deriving DecidableEq, Repr

instance decidableEqExcept {ε α : Type} [DecidableEq ε] [DecidableEq α] :
    DecidableEq (Except ε α)
  | .error e, .error e' => decidable_of_iff (e = e') ⟨congrArg Except.error, Except.error.inj⟩
  | .ok a, .ok a' => decidable_of_iff (a = a') ⟨congrArg Except.ok, Except.ok.inj⟩
  | .error _, .ok _ => isFalse nofun
  | .ok _, .error _ => isFalse nofun

namespace Error

def message : Error → String
  | .arguments fault => s!"Invalid command arguments: {fault.text}"
  | .io context fault => s!"{context}: {fault.text}"
  | .persistence context cause => s!"{context}: {cause.message}"
  | .configuration text => s!"Configuration error: {text}"
  | .document fault => s!"Serialization error: {fault.text}"
  | .logging text => s!"Logging error: {text}"
  | .other text => text

/-- The text of what lies behind an error. -/
def cause? : Error → Option String
  | .io _ fault => some fault.text
  | .persistence _ cause => some cause.message
  | _ => none

def isInvalidArguments : Error → Bool
  | .arguments _ => true
  | _ => false

end Error

end ConfigKeeper

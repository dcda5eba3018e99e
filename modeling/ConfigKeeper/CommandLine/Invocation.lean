import ConfigKeeper.Key
import ConfigKeeper.Path

namespace ConfigKeeper

inductive Command
  | print
  | info
  | view (key : Key)
  | set (arguments : List String)
  deriving DecidableEq, Repr

structure Invocation where
  /-- The file of the settings, if one is named. -/
  config : Option Path := none
  noColor : Bool := false
  command : Command
  deriving DecidableEq, Repr

namespace Invocation

/-- The command has no use for the file of the settings. -/
def isStandalone (i : Invocation) : Bool := i.command == .info

end Invocation

/-- Why a command line is no invocation; the first two are wishes and not mistakes. -/
inductive UsageFault
  | helpWanted
  | versionWanted
  | nothingAsked
  | missingSubcommand
  | invalidSubcommand
  | unknownArgument
  | missingArgument
  | invalidValue
  | invalidText
  | repeatedOption
  /-- A flag is given a value. -/
  | surplusValue
  deriving DecidableEq, Repr

namespace UsageFault

def exitCode : UsageFault → Nat
  | .helpWanted | .versionWanted => 0
  | _ => 2

def versionText : String := "eiam 0.5.3\n"

end UsageFault

end ConfigKeeper

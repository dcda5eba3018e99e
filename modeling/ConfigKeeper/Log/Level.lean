import ConfigKeeper.Text.Lower

namespace ConfigKeeper.Log

inductive Severity
  | trace
  | debug
  | info
  | warn
  | error
  deriving DecidableEq, Repr

namespace Severity

def rank : Severity → Nat
  | .trace => 0
  | .debug => 1
  | .info => 2
  | .warn => 3
  | .error => 4

/-- An event of severity `s` is reported under the filter. -/
def admits (filter s : Severity) : Bool := filter.rank ≤ s.rank

def name : Severity → String
  | .trace => "trace"
  | .debug => "debug"
  | .info => "info"
  | .warn => "warn"
  | .error => "error"

end Severity

inductive Level
  | trace
  | debug
  | info
  | warn
  | error
  | fatal
  | panic
  deriving DecidableEq, Repr

namespace Level

def all : List Level := [.trace, .debug, .info, .warn, .error, .fatal, .panic]

def name : Level → String
  | .trace => "trace"
  | .debug => "debug"
  | .info => "info"
  | .warn => "warn"
  | .error => "error"
  | .fatal => "fatal"
  | .panic => "panic"

def title : Level → String
  | .trace => "Trace"
  | .debug => "Debug"
  | .info => "Info"
  | .warn => "Warn"
  | .error => "Error"
  | .fatal => "Fatal"
  | .panic => "Panic"

def names : List String := all.map name

/-- The level of a name in small letters. -/
def named? (s : String) : Option Level :=
  if s = "warning" then some .warn else all.find? (·.name = s)

/-- The level of a name in letters of either case. -/
def ofText? (s : String) : Option Level := named? (Text.lower s)

def filter : Level → Severity
  | .trace => .trace
  | .debug => .debug
  | .info => .info
  | .warn => .warn
  | .error | .fatal | .panic => .error

theorem named?_name (l : Level) : named? l.name = some l := by cases l <;> decide

end Level

end ConfigKeeper.Log

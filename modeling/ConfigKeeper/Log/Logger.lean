import ConfigKeeper.Log.Event

namespace ConfigKeeper.Log

inductive Line
  | record (shape : Format) (severity : Severity) (message : String)
  | plain (text : String)
  deriving DecidableEq, Repr

structure Output where
  filter : Severity
  shape : Format
  deriving DecidableEq, Repr

structure Logger where
  level : Level := .info
  format : Format := .text
  output : Option Output := none
  deriving DecidableEq, Repr

def textLines (s : String) : List String := (s.toList.splitOn '\n').map String.ofList

namespace Line

def ofText (text : String) : List Line := (textLines text).map .plain

/-- The line as it is written, the time and the place in the program left out. -/
def text : Line → String
  | .record .json severity message =>
    "\x7b\"level\":" ++ Text.shown severity.name.toUpper ++ ",\"message\":" ++
      Text.shown message ++ "\x7d"
  | .record _ severity message => severity.name.toUpper ++ " " ++ message
  | .plain text => text

end Line

namespace Output

/-- An object holds a message of several lines as it is; elsewhere the later lines stand alone. -/
def lines (o : Output) (e : Event) : List Line :=
  if o.filter.admits e.severity then
    match o.shape, textLines e.message with
    | .json, _ => [.record .json e.severity e.message]
    | shape, [] => [.record shape e.severity ""]
    | shape, first :: rest => .record shape e.severity first :: rest.map .plain
  else []

end Output

namespace Logger

def detached (level : Level) (format : Format) : Logger := ⟨level, format, none⟩

def attached (level : Level) (format : Format) : Logger :=
  ⟨level, format, some ⟨level.filter, format⟩⟩

def start : Logger := attached .info .text

def isAttached (l : Logger) : Bool := l.output.isSome

def setLevel (l : Logger) (level : Level) : Logger :=
  { l with level, output := l.output.map fun o ↦ { o with filter := level.filter } }

def setFormat (l : Logger) (format : Format) : Logger :=
  { l with format, output := l.output.map fun o ↦ { o with shape := format } }

def lines (l : Logger) (events : List Event) : List Line :=
  match l.output with
  | some o => events.flatMap o.lines
  | none => []

def shown (l : Logger) : String :=
  "LoggerHandle \x7b level: " ++ l.level.title ++ ", format: " ++ l.format.title ++
    ", attached: " ++ toString l.isAttached ++ " \x7d"

end Logger

end ConfigKeeper.Log

import ConfigKeeper.CommandLine.Parse
import ConfigKeeper.Display.Table
import ConfigKeeper.Store.Change

namespace ConfigKeeper

structure Run where
  result : Except Error Unit
  /-- A line is said as a whole here; of a file that is printed it is what has got through. -/
  output : Bytes
  lines : List Log.Line
  logger : Log.Logger
  disk : Disk

namespace Run

def line (s : String) : Bytes := Bytes.ofString (s ++ "\n")

def keyRows : List Display.Row := Key.all.map fun key ↦ ⟨key.name, key.description⟩

def information (palette : Display.Palette) : Bytes := line (Display.keyTable palette keyRows)

/-- The file as it is, between two line feeds. -/
def printed (content : Bytes) : Bytes := 10 :: content ++ [10]

def outcomeLine (palette : Display.Palette) (o : Outcome) : Bytes :=
  line (if o.isUnchanged then Display.warning palette o.text else Display.success palette o.text)

/-- Runs a command on a store that was loaded, with a logger that follows it. -/
def command (c : Command) (palette : Display.Palette) (limit? : Option Limit) (s : Store)
    (logger : Log.Logger) (d : Disk) : Run :=
  match c with
  | .print =>
    match s.content d with
    | .ok data =>
      match Limit.pass limit? (printed data) with
      | (output, .ok ()) => ⟨.ok (), output, [], logger, d⟩
      | (output, .error f) =>
        ⟨.error (.io "Failed to write configuration to stdout" f), output, [], logger, d⟩
    | .error e => ⟨.error e, [], [], logger, d⟩
  | .info => ⟨.ok (), information palette, [], logger, d⟩
  | .view key =>
    match s.view key.name with
    | .ok value =>
      ⟨.ok (), line (Display.keyValue palette key.name ((value.map Value.text).getD "<not set>")),
        logger.lines [.viewing key.name s.path], logger, d⟩
    | .error e => ⟨.error e, [], [], logger, d⟩
  | .set arguments =>
    let change := s.set logger d arguments
    let lines := change.logger.lines change.events
    match change.result with
    | .ok outcome => ⟨.ok (), outcomeLine palette outcome, lines, change.logger, change.disk⟩
    | .error e => ⟨.error e, [], lines, change.logger, change.disk⟩

/-- The logger that follows a store. -/
def synchronized (s : Store) (logger : Log.Logger) : Log.Logger :=
  (logger.setLevel s.logLevel.1).setFormat s.logFormat

def invocation (i : Invocation) (env : Environment) (logger : Log.Logger) (d : Disk) : Run :=
  let palette := Display.Palette.ofNoColor i.noColor
  if i.isStandalone then ⟨.ok (), information palette, [], logger, d⟩
  else match i.config.or env.settingsFile? with
    | none => ⟨.error (.configuration "HOME environment variable not set"), [], [], logger, d⟩
    | some path =>
      match Store.loadOrCreate env d path with
      | ⟨.error e, d, events⟩ => ⟨.error e, [], logger.lines events, logger, d⟩
      | ⟨.ok s, d, events⟩ =>
        let follower := synchronized s logger
        let ran := command i.command palette env.output s follower d
        { ran with
          lines := logger.lines (events ++ s.logLevel.2) ++ follower.lines [.loadedFrom s.path] ++
            ran.lines }

end Run

structure Execution where
  /-- It is 101 where a line could not be printed, which no error of the run tells. -/
  exitCode : Nat
  output : Bytes
  /-- The lines of the log; what a faulty command line is answered with is not kept. -/
  lines : List Log.Line
  disk : Disk

namespace Execution

def failureLines (logger : Log.Logger) (e : Error) : List Log.Line :=
  logger.lines [.failed e] ++ Log.Line.ofText s!"Error: {e.message}"

def run (arguments : List Bytes) (env : Environment) (d : Disk) : Execution :=
  match CommandLine.parse env arguments with
  | .error fault =>
    let answer := if fault = .versionWanted then Bytes.ofString UsageFault.versionText else []
    ⟨fault.exitCode, (Limit.pass env.output answer).1, [], d⟩
  | .ok i =>
    let ran := Run.invocation i env .start d
    match ran.result with
    | .ok () =>
      match Limit.pass env.output ran.output with
      | (output, .ok ()) => ⟨0, output, ran.lines, ran.disk⟩
      | (output, .error _) => ⟨101, output, ran.lines, ran.disk⟩
    | .error e => ⟨1, ran.output, ran.lines ++ failureLines ran.logger e, ran.disk⟩

end Execution

end ConfigKeeper

import ConfigKeeper.Environment
import ConfigKeeper.Key
import ConfigKeeper.KeyMap

namespace ConfigKeeper

structure Store where
  path : Path
  values : KeyMap Value
  deriving DecidableEq

namespace Store

def programText (env : Environment) (d : Disk) (name : String) : String :=
  ((env.program? d name).map Path.text).getD ""

/-- The value of a key that nobody has set; certificates and logs lie beside the file. -/
def initial (env : Environment) (d : Disk) (folder : Path) : Key → Value
  | .certFile => .string (folder.join (.ofString "server.pem")).text
  | .keyFile => .string (folder.join (.ofString "server.key")).text
  | .logFolder => .string (folder.join (.ofString "log")).text
  | .proxyAddress => .string "127.0.0.1"
  | .proxyPort => .string "8084"
  | .verbose => .bool false
  | .gcloud => .string (programText env d "gcloud")
  | .kubectl => .string (programText env d "kubectl")
  | .logFormat => .string "text"
  | .logLevel => .string "info"
  | .disableLevelTruncation => .bool true
  | .padLevelText => .bool true

def initialValues (env : Environment) (d : Disk) (folder : Path) : KeyMap Value :=
  .ofList (Key.all.map fun key ↦ (key.name, initial env d folder key))

def initialAt (env : Environment) (d : Disk) (path : Path) : Store :=
  ⟨path, initialValues env d (path.parent?.getD ⟨[]⟩)⟩

def get? (s : Store) (key : String) : Option Value := s.values.get? key

def put (s : Store) (key : String) (v : Value) : Store :=
  { s with values := s.values.insert (Text.lower key) v }

/-- The level of the logger. A text that names none means the level of information. -/
def logLevel (s : Store) : Log.Level × List Log.Event :=
  match s.get? Key.logLevel.name with
  | none => (.info, [])
  | some v =>
    match Log.Level.ofText? v.text with
    | some level => (level, [])
    | none => (.info, [.invalidLevel v])

def logFormat (s : Store) : Log.Format :=
  match s.get? Key.logFormat.name with
  | none => .text
  | some v => .ofText v.text

end Store

end ConfigKeeper

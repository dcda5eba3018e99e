import ConfigKeeper.Error
import ConfigKeeper.Flag
import ConfigKeeper.Log.Logger

namespace ConfigKeeper

inductive Kind
  | text
  | flag
  | logLevel
  | logFormat
  deriving DecidableEq, Repr

namespace Kind

/-- Refuses a text that is no value for a key of this kind. -/
def check (kind : Kind) (key text : String) : Except ArgumentFault Unit :=
  match kind with
  | .text => .ok ()
  | .flag => if (Flag.ofText? text).isSome then .ok () else .error (.notFlag key)
  | .logLevel => if text ∈ Log.Level.names then .ok () else .error .notLevelName
  | .logFormat => if text ∈ Log.Format.names then .ok () else .error .notFormatName

/-- The value that is kept for a text. -/
def coerce (kind : Kind) (text : String) : Value :=
  match kind with
  | .flag =>
    match Flag.ofText? text with
    | some b => .bool b
    | none => .string text
  | .text | .logLevel | .logFormat => .string text

end Kind

inductive Key
  | certFile
  | keyFile
  | logFolder
  | proxyAddress
  | proxyPort
  | verbose
  | gcloud
  | kubectl
  | logFormat
  | logLevel
  | disableLevelTruncation
  | padLevelText
  deriving DecidableEq, Repr

namespace Key

def all : List Key :=
  [.certFile, .keyFile, .logFolder, .proxyAddress, .proxyPort, .verbose, .gcloud, .kubectl,
   .logFormat, .logLevel, .disableLevelTruncation, .padLevelText]

def name : Key → String
  | .certFile => "authproxy.certfile"
  | .keyFile => "authproxy.keyfile"
  | .logFolder => "authproxy.logdir"
  | .proxyAddress => "authproxy.proxyaddress"
  | .proxyPort => "authproxy.proxyport"
  | .verbose => "authproxy.verbose"
  | .gcloud => "binarypaths.gcloud"
  | .kubectl => "binarypaths.kubectl"
  | .logFormat => "logging.format"
  | .logLevel => "logging.level"
  | .disableLevelTruncation => "logging.disableleveltruncation"
  | .padLevelText => "logging.padleveltext"

def kind : Key → Kind
  | .verbose | .disableLevelTruncation | .padLevelText => .flag
  | .logFormat => .logFormat
  | .logLevel => .logLevel
  | _ => .text

def description : Key → String
  | .certFile => "The path to the auth proxy's TLS certificate"
  | .keyFile => "The path to the auth proxy's x509 key"
  | .logFolder => "The directory that auth proxy logs will be written to"
  | .proxyAddress => "The address that the auth proxy is hosted on"
  | .proxyPort => "The port that the auth proxy runs on"
  | .verbose => "When set to 'true', verbose output for proxy logs will be enabled"
  | .gcloud => "The path to the gcloud binary on your filesystem"
  | .kubectl => "The path to the kubectl binary on your filesystem"
  | .logFormat =>
    "The format for which to write console logs. Can be 'json', 'text', or 'debug'"
  | .logLevel =>
    "The logging level to write to the console. Can be one of 'trace', 'debug', 'info', " ++
      "'warn', 'error', 'fatal', or 'panic'"
  | .disableLevelTruncation =>
    "When set to 'true', the level indicator for logs will not be truncated"
  | .padLevelText =>
    "When set to 'true', output logs will align evenly with their output level indicator"

def names : List String := all.map name

def named? (s : String) : Option Key := all.find? (·.name = s)

def find (s : String) : Except ArgumentFault Key :=
  match named? s with
  | some key => .ok key
  | none => .error (.unknownKey s)

def check (key : Key) (text : String) : Except ArgumentFault Unit := key.kind.check key.name text

/-- The logger once a key has a new value. -/
def apply (key : Key) (text : String) (logger : Log.Logger) : Except ArgumentFault Log.Logger :=
  match key.kind with
  | .logLevel =>
    match Log.Level.ofText? text with
    | some level => .ok (logger.setLevel level)
    | none => .error (.notLevel text)
  | .logFormat => .ok (logger.setFormat (.ofText text))
  | .text | .flag => .ok logger

theorem named?_name (key : Key) : named? key.name = some key := by cases key <;> decide

theorem name_of_named? {s : String} {key : Key} (h : named? s = some key) : key.name = s := by
  simpa using List.find?_some h

end Key

end ConfigKeeper

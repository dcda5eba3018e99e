import ConfigKeeper.Error
import ConfigKeeper.Path
import ConfigKeeper.Value
import ConfigKeeper.Yaml.Shown

namespace ConfigKeeper.Log

inductive Event
  | noConfiguration (path : Path)
  | loadedValues (count : Nat)
  | strayKey (key : Yaml.Node)
  | strayValue (key : String)
  | invalidLevel (value : Value)
  | wrote (path : Path)
  | loadedFrom (path : Path)
  | viewing (key : String) (path : Path)
  | failed (error : Error)
  | other (severity : Severity) (text : String)

namespace Event

def severity : Event → Severity
  | .noConfiguration _ => .info
  | .loadedValues _ | .wrote _ | .loadedFrom _ | .viewing _ _ => .debug
  | .strayKey _ | .strayValue _ | .invalidLevel _ => .warn
  | .failed _ => .error
  | .other severity _ => severity

def message : Event → String
  | .noConfiguration path => s!"No configuration found at {path.text}, writing defaults"
  | .loadedValues count => s!"Loaded {count} configuration values"
  | .strayKey key => s!"Skipping non-string configuration key {key.shown}"
  | .strayValue key => s!"Skipping unsupported value for configuration key {key}"
  | .invalidLevel value => s!"Ignoring invalid logging level {value.shown} in configuration"
  | .wrote path => s!"Wrote configuration to {path.text}"
  | .loadedFrom path => s!"Loaded configuration from {path.text}"
  | .viewing key path => s!"Viewing {key} from {path.text}"
  | .failed error => s!"Error: {error.message}"
  | .other _ text => text

end Event

end ConfigKeeper.Log

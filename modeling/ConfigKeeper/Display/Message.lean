namespace ConfigKeeper.Display

inductive Palette
  | plain
  | coloured
  deriving DecidableEq, Repr

namespace Palette

def ofNoColor (noColor : Bool) : Palette := if noColor then .plain else .coloured

end Palette

def sequence (code : String) : String := "\x1b[" ++ code ++ "m"

/-- A text between the sequences that begin and end its look. -/
def styled (palette : Palette) (codes : List String) (ending text : String) : String :=
  match palette with
  | .plain => text
  | .coloured => String.join (codes.map sequence) ++ text ++ sequence ending

def success (palette : Palette) (message : String) : String :=
  "✓ " ++ styled palette ["38;5;10"] "39" message

def warning (palette : Palette) (message : String) : String :=
  "⚠ " ++ styled palette ["38;5;11"] "39" message

def keyValue (palette : Palette) (key value : String) : String :=
  styled palette ["38;5;13", "1"] "0" key ++ ": " ++ value

end ConfigKeeper.Display

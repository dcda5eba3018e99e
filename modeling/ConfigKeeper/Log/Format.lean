namespace ConfigKeeper.Log

inductive Format
  /-- A line for each event. -/
  | text
  /-- An object for each event. -/
  | json
  /-- A line with the place in the program and the thread. -/
  | runtime
  deriving DecidableEq, Repr

namespace Format

def all : List Format := [.text, .json, .runtime]

def name : Format → String
  | .text => "text"
  | .json => "json"
  | .runtime => "debug"

def title : Format → String
  | .text => "Text"
  | .json => "Json"
  | .runtime => "Runtime"

def names : List String := all.map name

/-- The format of a name; any other text means the plain one. -/
def ofText (s : String) : Format := (all.find? (·.name = s)).getD .text

theorem ofText_name (f : Format) : ofText f.name = f := by cases f <;> decide

end Format

end ConfigKeeper.Log

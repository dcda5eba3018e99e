import ConfigKeeper.Store.File

namespace ConfigKeeper

inductive Outcome
  | unchanged (key : String)
  | updated (key : String) (old : Option Value) (new : Value)
  deriving DecidableEq, Repr

namespace Outcome

def isUnchanged : Outcome → Bool
  | .unchanged _ => true
  | .updated _ _ _ => false

def text : Outcome → String
  | .unchanged _ => "New value is the same as the current one"
  | .updated key old new =>
    s!"Updated {key} from " ++ (old.map Value.text).getD "" ++ s!" to {new.text}"

end Outcome

structure Change where
  result : Except Error Outcome
  store : Store
  logger : Log.Logger
  disk : Disk
  events : List Log.Event

namespace Store

def view (s : Store) (name : String) : Except Error (Option Value) :=
  match Key.find name with
  | .ok key => .ok (s.get? key.name)
  | .error f => .error (.arguments f)

def checkArguments : List String → Except ArgumentFault (Key × String)
  | [name, text] =>
    match Key.find name with
    | .error f => .error f
    | .ok key =>
      match key.check text with
      | .error f => .error f
      | .ok () => .ok (key, text)
  | _ => .error .arity

/-- Keeps a value and has the logger and the file follow. -/
def update (s : Store) (logger : Log.Logger) (d : Disk) (key : Key) (text : String) : Change :=
  let new := key.kind.coerce text
  let changed := s.put key.name new
  match key.apply text logger with
  | .error f => ⟨.error (.arguments f), changed, logger, d, []⟩
  | .ok logger =>
    match changed.write d with
    | ⟨.error e, d, events⟩ => ⟨.error e, changed, logger, d, events⟩
    | ⟨.ok (), d, events⟩ =>
      ⟨.ok (.updated key.name (s.get? key.name) new), changed, logger, d, events⟩

/-- Changes a setting, unless its value has the wanted text already. -/
def set (s : Store) (logger : Log.Logger) (d : Disk) (arguments : List String) : Change :=
  match checkArguments arguments with
  | .error f => ⟨.error (.arguments f), s, logger, d, []⟩
  | .ok (key, text) =>
    if (s.get? key.name).map Value.text = some text then
      ⟨.ok (.unchanged key.name), s, logger, d, []⟩
    else s.update logger d key text

end Store

end ConfigKeeper

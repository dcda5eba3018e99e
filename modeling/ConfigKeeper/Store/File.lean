import ConfigKeeper.Attempt
import ConfigKeeper.Store.Document
import ConfigKeeper.Store.Tree

namespace ConfigKeeper.Store

def ensureFolder (s : Store) (d : Disk) : Disk × Except Disk.Fault Unit :=
  match s.path.parent? with
  | some folder => if folder.isEmpty then (d, .ok ()) else d.ensureDirectories folder
  | none => (d, .ok ())

def save (s : Store) (d : Disk) : Attempt Unit :=
  match s.toText with
  | .error f => ⟨.error (.document f), d, []⟩
  | .ok text =>
    match s.ensureFolder d with
    | (d, .error f) => ⟨.error (.io "Failed to create configuration directory" f), d, []⟩
    | (d, .ok ()) =>
      match d.overwrite s.path (Bytes.ofString text) with
      | (d, .error f) => ⟨.error (.io "Failed to write configuration file" f), d, []⟩
      | (d, .ok ()) => ⟨.ok (), d, [.wrote s.path]⟩

def write (s : Store) (d : Disk) : Attempt Unit :=
  match s.save d with
  | ⟨.error e, d, events⟩ =>
    ⟨.error (.persistence "Failed to write updated configuration" e), d, events⟩
  | done => done

/-- Loads the file at a path, or creates it if nothing is there. -/
def loadOrCreate (env : Environment) (d : Disk) (path : Path) : Attempt Store :=
  if d.has path then
    let loaded := load env d path
    ⟨loaded.result, d, loaded.events⟩
  else
    let s := initialAt env d path
    match s.save d with
    | ⟨.error e, d, events⟩ =>
      ⟨.error (.persistence "Failed to write default configuration" e), d,
        .noConfiguration path :: events⟩
    | ⟨.ok (), d, events⟩ => ⟨.ok s, d, .noConfiguration path :: events⟩

def content (s : Store) (d : Disk) : Except Error Bytes :=
  match d.read s.path with
  | .ok data => .ok data
  | .error f => .error (.io "Failed to read configuration file" f)

end ConfigKeeper.Store

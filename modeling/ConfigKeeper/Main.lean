import ConfigKeeper.Run

namespace ConfigKeeper

def placeText (place : Place) : String :=
  "/" ++ "/".intercalate (place.reverse.map Bytes.text)

/-- What is at a place now. Every file counts as one that can be run. -/
def lookUp (place : Place) : IO (Option Disk.Entry) := do
  let p := (← IO.currentDir) / placeText place
  if ← p.isDir then return some .directory
  if !(← p.pathExists) then return none
  let data := (← IO.FS.readBinFile p).data.toList
  let locked ← try
      discard <| IO.FS.Handle.mk p .append
      pure false
    catch _ => pure true
  return some (.file { data, executable := true, locked })

/-- Takes note of all places on the way along a path. -/
def lookAlong (d : Disk) (p : Path) : IO Disk := do
  let start := if p.isAbsolute then [] else d.here
  let (d, _) ← p.steps.foldlM (fun (d, place) step ↦ do
    match step with
    | .stay => return (d, place)
    | .up => return (d, place.tail)
    | .into name =>
      let place := name :: place
      match ← lookUp place with
      | some e => return (d.put place e, place)
      | none => return (d, place)) (d, start)
  return d

def currentPlace : IO Place := do
  return (Path.names ⟨.ofString (← IO.currentDir).toString⟩).reverse

def environment : IO Environment := do
  let get (name : String) : IO (Option Bytes) := return (← IO.getEnv name).map Bytes.ofString
  return { configHome := ← get "XDG_CONFIG_HOME", home := ← get "HOME",
           configFile := ← get "EIAM_CONFIG", programs := ← get "PATH" }

def snapshot (arguments : List Bytes) (env : Environment) : IO Disk := do
  let here ← currentPlace
  let d : Disk := ⟨(List.range here.length).map fun n ↦ (here.drop n, .directory), here⟩
  match CommandLine.parse env arguments with
  | .error _ => return d
  | .ok i =>
    if i.isStandalone then return d
    let file := (i.config.or env.settingsFile?).toList
    (file ++ env.candidates "gcloud" ++ env.candidates "kubectl").foldlM lookAlong d

def carryOut (before : Disk) (change : Place × Disk.Entry) : IO Unit := do
  let (place, e) := change
  if before.lookup? place = some e then return
  let p := (← IO.currentDir) / placeText place
  match e with
  | .directory => IO.FS.createDir p
  | .file f => IO.FS.writeBinFile p ⟨f.data.toArray⟩

def usage : String :=
  "Usage: eiam [--config <PATH>] [--no-color] config <print|info|view <KEY>|set <KEY> <VALUE>>\n"

end ConfigKeeper

open ConfigKeeper in
def main (arguments : List String) : IO UInt32 := do
  let arguments := arguments.map Bytes.ofString
  let env ← environment
  let before ← snapshot arguments env
  let ran := Execution.run arguments env before
  ran.disk.entries.forM (carryOut before)
  let out ← IO.getStdout
  let err ← IO.getStderr
  out.write ⟨ran.output.toArray⟩
  match CommandLine.parse env arguments with
  | .error .versionWanted => pure ()
  | .error fault => (if fault.exitCode = 0 then out else err).putStr usage
  | .ok _ => ran.lines.forM fun line ↦ err.putStrLn line.text
  return ran.exitCode.toUInt32

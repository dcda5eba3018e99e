import ConfigKeeper.Disk.Walk

namespace ConfigKeeper.Disk

def has (d : Disk) (p : Path) : Bool := (d.find p).isOk

def isDirectory (d : Disk) (p : Path) : Bool :=
  match d.find p with
  | .ok (_, .directory) => true
  | _ => false

def isProgram (d : Disk) (p : Path) : Bool :=
  match d.find p with
  | .ok (_, .file f) => f.executable
  | _ => false

def read (d : Disk) (p : Path) : Except Fault Bytes :=
  match d.find p with
  | .ok (_, .file f) => .ok f.data
  | .ok (_, .directory) => .error .isDirectory
  | .error f => .error f

def readText (d : Disk) (p : Path) : Except Fault String :=
  match d.read p with
  | .ok data =>
    match Bytes.toString? data with
    | some s => .ok s
    | none => .error .invalidText
  | .error f => .error f

/-- The file at the end of a path, opened to be written from its beginning: one that is there and is
not locked, or one that is yet to be created. -/
def openFile (d : Disk) (p : Path) : Except Fault (Place × File) :=
  match d.target p with
  | .error f => .error f
  | .ok t =>
    match t.last with
    | .stay | .up => .error .isDirectory
    | .into name =>
      if t.endsInSlash then .error .isDirectory
      else if maxNameLength < name.length then .error .nameTooLong
      else match d.lookup? (name :: t.folder) with
        | none => .ok (name :: t.folder, { data := [] })
        | some .directory => .error .isDirectory
        | some (.file f) =>
          if f.locked then .error .accessDenied else .ok (name :: t.folder, f)

/-- Empties or creates a file, and then fills it as far as the device lets it. -/
def overwrite (d : Disk) (p : Path) (data : Bytes) : Disk × Except Fault Unit :=
  match d.openFile p with
  | .error f => (d, .error f)
  | .ok (place, f) =>
    let passed := Limit.pass d.limit? data
    (d.put place (.file { f with data := passed.1 }), passed.2)

def write (d : Disk) (p : Path) (data : Bytes) : Except Fault Disk :=
  match d.overwrite p data with
  | (d, .ok ()) => .ok d
  | (_, .error f) => .error f

def makeDirectory (d : Disk) (p : Path) : Except Fault Disk :=
  match d.target p with
  | .error f => .error f
  | .ok t =>
    match t.last with
    | .stay | .up => .error .alreadyExists
    | .into name =>
      if maxNameLength < name.length then .error .nameTooLong
      else match d.lookup? (name :: t.folder) with
        | none => .ok (d.put (name :: t.folder) .directory)
        | some _ => .error .alreadyExists

def ensureDirectory (d : Disk) (p : Path) : Except Fault Disk :=
  match d.makeDirectory p with
  | .ok d => .ok d
  | .error f => if d.isDirectory p then .ok d else .error f

def ancestors : Nat → Path → List Path
  | 0, p => [p]
  | n + 1, p =>
    match p.parent? with
    | some q => p :: ancestors n q
    | none => [p]

/-- Creates the first of the directories; the others are those around it. What was created before a
fault stays. -/
def ensureChain (d : Disk) : List Path → Disk × Except Fault Unit
  | [] => (d, .error .rootless)
  | p :: around =>
    if p.isEmpty then (d, .ok ())
    else match d.ensureDirectory p with
      | .ok d => (d, .ok ())
      | .error f =>
        if f = .notFound then
          match ensureChain d around with
          | (d, .error f) => (d, .error f)
          | (d, .ok ()) =>
            match d.ensureDirectory p with
            | .ok d => (d, .ok ())
            | .error f => (d, .error f)
        else (d, .error f)

def ensureDirectories (d : Disk) (p : Path) : Disk × Except Fault Unit :=
  d.ensureChain (ancestors p.bytes.length p)

def removeFile (d : Disk) (p : Path) : Except Fault Disk :=
  match d.find p with
  | .ok (place, .file _) => .ok (d.erase place)
  | .ok (_, .directory) => .error .isDirectory
  | .error f => .error f

def removeDirectory (d : Disk) (p : Path) : Except Fault Disk :=
  match d.find p with
  | .ok (_, .file _) => .error .notDirectory
  | .ok (place, .directory) =>
    if place.isSuffixOf d.here then .error (.system 22) else .ok (d.erase place)
  | .error f => .error f

def setExecutable (d : Disk) (p : Path) (executable : Bool) : Disk :=
  match d.find p with
  | .ok (place, .file f) => d.put place (.file { f with executable })
  | _ => d

/-- The path from a directory to what lies in it; that of a directory ends in a slash. -/
def relative? (base : Place) (place : Place) (e : Entry) : Option Bytes :=
  if base.isSuffixOf place && base.length < place.length then
    let names := (place.take (place.length - base.length)).reverse
    some ([Path.slash].intercalate names ++ if e = .directory then [Path.slash] else [])
  else none

def listing (d : Disk) : List Bytes :=
  (d.entries.filterMap fun (place, e) ↦ relative? d.here place e).mergeSort (· ≤ ·)

end ConfigKeeper.Disk

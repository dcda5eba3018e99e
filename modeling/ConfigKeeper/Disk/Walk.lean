import ConfigKeeper.Disk.Basic

namespace ConfigKeeper

inductive Step
  | stay
  | up
  | into (name : Bytes)
  deriving DecidableEq, Repr

namespace Path

def step (segment : Bytes) : Step :=
  if segment == [dot] then .stay else if segment == [dot, dot] then .up else .into segment

def steps (p : Path) : List Step :=
  ((segments p.bytes).filter fun s ↦ !s.isEmpty).map step

/-- A path whose end can only be a directory. -/
def endsInSlash (p : Path) : Bool := p.bytes.getLast? == some slash

def maxLength : Nat := 4095

/-- Faults of a path that no disk can mend. -/
def fault? (p : Path) : Option Disk.Fault :=
  if p.bytes.contains 0 then some .nulInName
  else if p.isEmpty then some .notFound
  else if maxLength < p.bytes.length then some .nameTooLong
  else none

end Path

namespace Disk

def maxNameLength : Nat := 255

def enter (d : Disk) (place : Place) : Step → Except Fault Place
  | .stay => .ok place
  | .up => .ok place.tail
  | .into name =>
    if maxNameLength < name.length then .error .nameTooLong
    else match d.lookup? (name :: place) with
      | none => .error .notFound
      | some (.file _) => .error .notDirectory
      | some .directory => .ok (name :: place)

def walk (d : Disk) (place : Place) : List Step → Except Fault Place
  | [] => .ok place
  | s :: rest =>
    match d.enter place s with
    | .ok next => walk d next rest
    | .error f => .error f

structure Target where
  folder : Place
  last : Step
  endsInSlash : Bool
  deriving DecidableEq, Repr

def target (d : Disk) (p : Path) : Except Fault Target :=
  match p.fault? with
  | some f => .error f
  | none =>
    match d.walk (if p.isAbsolute then [] else d.here) p.steps.dropLast with
    | .ok folder => .ok ⟨folder, p.steps.getLast?.getD .stay, p.endsInSlash⟩
    | .error f => .error f

/-- Where a path ends and what is there. -/
def find (d : Disk) (p : Path) : Except Fault (Place × Entry) :=
  match d.target p with
  | .error f => .error f
  | .ok t =>
    match t.last with
    | .stay => .ok (t.folder, .directory)
    | .up => .ok (t.folder.tail, .directory)
    | .into name =>
      if maxNameLength < name.length then .error .nameTooLong
      else match d.lookup? (name :: t.folder) with
        | none => .error .notFound
        | some (.file f) =>
          if t.endsInSlash then .error .notDirectory else .ok (name :: t.folder, .file f)
        | some .directory => .ok (name :: t.folder, .directory)

end Disk

end ConfigKeeper

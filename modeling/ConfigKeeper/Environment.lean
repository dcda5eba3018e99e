import ConfigKeeper.Disk.Files

namespace ConfigKeeper

structure Environment where
  /-- The directory of the user's configurations. -/
  configHome : Option Bytes := none
  home : Option Bytes := none
  /-- The file of the settings, unless the command line names one. -/
  configFile : Option Bytes := none
  /-- The directories of programs, parted by colons. -/
  programs : Option Bytes := none
  /-- What standard output takes. One that is closed takes everything. -/
  output : Option Limit := none
  deriving DecidableEq, Repr

namespace Environment

/-- A variable whose value is text. -/
def text? (value : Option Bytes) : Option Path := do
  let b ← value
  if (Bytes.toString? b).isSome then some ⟨b⟩ else none

def settingsFolder? (env : Environment) : Option Path :=
  let base : Option Path := match text? env.configHome with
    | some p => some p
    | none => (text? env.home).map fun (p : Path) ↦ p.join (.ofString ".config")
  base.map fun (p : Path) ↦ p.join (.ofString "ephemeral-iam")

def settingsFile? (env : Environment) : Option Path :=
  env.settingsFolder?.map fun (p : Path) ↦ p.join (.ofString "config.yaml")

def tilde : UInt8 := 126

def colon : UInt8 := 58

/-- A directory of programs, in which a tilde at the front stands for the home directory. -/
def programFolder (env : Environment) (b : Bytes) : Path :=
  if (Path.segments b).head? == some [tilde] then
    (Path.names ⟨b⟩).tail.foldl (fun p name ↦ p.join ⟨name⟩) ⟨env.home.getD []⟩
  else ⟨b⟩

def candidates (env : Environment) (name : String) : List Path :=
  match env.programs with
  | none => []
  | some list => (list.splitOn colon).map fun b ↦ (env.programFolder b).join (.ofString name)

def program? (env : Environment) (d : Disk) (name : String) : Option Path :=
  (env.candidates name).find? d.isProgram

end Environment

end ConfigKeeper

import ConfigKeeper.Disk.Limit
import ConfigKeeper.Path

namespace ConfigKeeper

abbrev Place := List Bytes

namespace Disk

structure File where
  data : Bytes
  executable : Bool := false
  /-- It can be read but not written. -/
  locked : Bool := false
  deriving DecidableEq, Repr

inductive Entry
  | file (f : File)
  | directory
  deriving DecidableEq, Repr

end Disk

structure Disk where
  entries : List (Place × Disk.Entry)
  /-- The directory from which relative paths start. -/
  here : Place
  [device : Device]
  deriving DecidableEq, Repr

namespace Disk

/-- How much of a file can be written. -/
def limit? (d : Disk) : Option Limit := d.device.limit

def lookup? (d : Disk) (place : Place) : Option Entry :=
  if place = [] then some .directory else d.entries.lookup place

def replace (place : Place) (e : Entry) : List (Place × Entry) → List (Place × Entry)
  | [] => [(place, e)]
  | (p, old) :: rest => if p = place then (p, e) :: rest else (p, old) :: replace place e rest

def put (d : Disk) (place : Place) (e : Entry) : Disk :=
  { d with entries := replace place e d.entries }

/-- Takes away a place and all that lies within it. -/
def erase (d : Disk) (place : Place) : Disk :=
  { d with entries := d.entries.filter fun e ↦ !place.isSuffixOf e.1 }

theorem lookup_replace (place q : Place) (e : Entry) (entries : List (Place × Entry)) :
    (replace place e entries).lookup q = if q = place then some e else entries.lookup q := by
  induction entries with
  | nil => by_cases hq : q = place <;> grind [replace]
  | cons head rest ih =>
    obtain ⟨p, old⟩ := head
    by_cases hq : q = place <;> grind [replace]

theorem lookup?_put {d : Disk} {place : Place} (h : place ≠ []) (e : Entry) (q : Place) :
    (d.put place e).lookup? q = if q = place then some e else d.lookup? q := by
  simp only [lookup?, put, lookup_replace]
  grind

theorem limit?_put (d : Disk) (place : Place) (e : Entry) : (d.put place e).limit? = d.limit? := rfl

end Disk

end ConfigKeeper

import ConfigKeeper.Bytes
import ConfigKeeper.Disk.Fault

namespace ConfigKeeper

/-- No more than so many octets get through; what comes of the next one is a fault that lasts. -/
structure Limit where
  octets : Nat
  fault : Disk.Fault
  deriving DecidableEq, Repr

namespace Limit

def pass (limit? : Option Limit) (data : Bytes) : Bytes × Except Disk.Fault Unit :=
  match limit? with
  | none => (data, .ok ())
  | some limit =>
    if data.length ≤ limit.octets then (data, .ok ())
    else (data.take limit.octets, .error limit.fault)

end Limit

/-- What carries the files. On one that nobody describes every file can be written to its end. -/
class Device where
  limit : Option Limit := none
  deriving DecidableEq, Repr

instance : Device := {}

end ConfigKeeper

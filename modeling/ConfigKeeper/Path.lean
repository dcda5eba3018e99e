import ConfigKeeper.Bytes

namespace ConfigKeeper

structure Path where
  bytes : Bytes
  deriving DecidableEq, Repr

namespace Path

def ofString (s : String) : Path := ⟨Bytes.ofString s⟩

def text (p : Path) : String := Bytes.text p.bytes

def isEmpty (p : Path) : Bool := p.bytes.isEmpty

def slash : UInt8 := 47

def dot : UInt8 := 46

def isAbsolute (p : Path) : Bool := p.bytes.head? == some slash

def segments (b : Bytes) : List Bytes := b.splitOn slash

def join (p q : Path) : Path :=
  if q.isAbsolute then q
  else if p.isEmpty || p.bytes.getLast? == some slash then ⟨p.bytes ++ q.bytes⟩
  else ⟨p.bytes ++ slash :: q.bytes⟩

/-- A part that leads nowhere: two slashes in a row, or a dot between them. -/
def isBlank (segment : Bytes) : Bool := segment.isEmpty || segment == [dot]

/-- The octets in front of the names: the slash of an absolute path, or the dot a path begins with. -/
def leading (p : Path) : Nat :=
  if p.isAbsolute || p.bytes == [dot] || p.bytes.take 2 == [dot, slash] then 1 else 0

def trimBlank (segments : List Bytes) : List Bytes :=
  (segments.reverse.dropWhile isBlank).reverse

/-- The path without its last name, and without what leads nowhere at its end. The root and the
empty path have no parent, and that of the dot is empty. -/
def parent? (p : Path) : Option Path :=
  let front := p.bytes.take p.leading
  match trimBlank (segments (p.bytes.drop p.leading)) with
  | [] => if p.isAbsolute || p.isEmpty then none else some ⟨[]⟩
  | names => some ⟨front ++ [slash].intercalate (trimBlank names.dropLast)⟩

def names (p : Path) : List Bytes := (segments p.bytes).filter fun s ↦ !isBlank s

end Path

end ConfigKeeper

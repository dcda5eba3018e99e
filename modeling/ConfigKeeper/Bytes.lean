namespace ConfigKeeper

abbrev Bytes := List UInt8

namespace Bytes

def ofString (s : String) : Bytes := s.toUTF8.data.toList

def toString? (b : Bytes) : Option String := String.fromUTF8? ⟨b.toArray⟩

theorem toString?_ofString (s : String) : toString? (ofString s) = some s := by
  simp [toString?, ofString, String.fromUTF8?, s.isValidUTF8, String.fromUTF8]

/-- How many octets follow the first one of a character, and what the second one may be. -/
def followers (b : UInt8) : Nat × UInt8 × UInt8 :=
  if 0xC2 ≤ b && b ≤ 0xDF then (1, 0x80, 0xBF)
  else if b == 0xE0 then (2, 0xA0, 0xBF)
  else if b == 0xED then (2, 0x80, 0x9F)
  else if 0xE1 ≤ b && b ≤ 0xEF then (2, 0x80, 0xBF)
  else if b == 0xF0 then (3, 0x90, 0xBF)
  else if b == 0xF4 then (3, 0x80, 0x8F)
  else if 0xF1 ≤ b && b ≤ 0xF3 then (3, 0x80, 0xBF)
  else (0, 0x80, 0xBF)

def tail (b : UInt8) (rest : Bytes) : Bytes :=
  let (n, low, high) := followers b
  match rest.take n with
  | [] => []
  | c :: cs => if low ≤ c && c ≤ high then c :: cs.takeWhile fun x ↦ 0x80 ≤ x && x ≤ 0xBF else []

def character (b : UInt8) (tail : Bytes) : Char :=
  if b < 0x80 then Char.ofNat b.toNat
  else if tail.isEmpty || tail.length < (followers b).1 then '\uFFFD'
  else
    let lead := b.toNat % Nat.pow 2 (6 - tail.length)
    Char.ofNat (tail.foldl (fun n c ↦ n * 64 + c.toNat % 64) lead)

/-- The characters, with U+FFFD for each longest run of octets that only begins a character. The
first `skip` octets have been read already. -/
def characters (skip : Nat) : Bytes → List Char
  | [] => []
  | b :: rest =>
    match skip with
    | n + 1 => characters n rest
    | 0 => character b (tail b rest) :: characters (tail b rest).length rest

def text (b : Bytes) : String := (toString? b).getD (String.ofList (characters 0 b))

theorem text_ofString (s : String) : text (ofString s) = s := by simp [text, toString?_ofString]

end Bytes

end ConfigKeeper

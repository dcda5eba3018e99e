import ConfigKeeper.Yaml.Node
import ConfigKeeper.Yaml.Letter

namespace ConfigKeeper.Yaml.Scalar

open Number (Binary64)

def isNull (s : String) : Bool := s == "null" || s == "Null" || s == "NULL" || s == "~"

def bool? (s : String) : Option Bool :=
  if s == "true" || s == "True" || s == "TRUE" then some true
  else if s == "false" || s == "False" || s == "FALSE" then some false
  else none

def stripPrefix? (p s : List Char) : Option (List Char) :=
  if s.take p.length == p then some (s.drop p.length) else none

def startsSigned (s : List Char) : Bool := s.head?.any fun x ↦ x == '+' || x == '-'

def digit? (base : Nat) (c : Char) : Option Nat := (hexDigit? c).filter (· < base)

def digits? (base : Nat) (acc : Nat) : List Char → Option Nat
  | [] => some acc
  | c :: cs => do digits? base (acc * base + (← digit? base c)) cs

def natural? (base : Nat) (s : List Char) : Option Nat :=
  if s.isEmpty then none else digits? base 0 s

def isPaddedDigits (s : List Char) : Bool :=
  let s := if startsSigned s then s.tail else s
  s.length > 1 && s.head? == some '0' && s.tail.all (·.isDigit)

def marks : List (List Char × Nat) := [(['0', 'x'], 16), (['0', 'o'], 8), (['0', 'b'], 2)]

def marked? (limit : Nat) (s : List Char) : Option Nat :=
  marks.findSome? fun (mark, base) ↦ do
    let n ← natural? base (← stripPrefix? mark s)
    if n < limit then some n else none

/-- A non-negative integer below `limit`, with at most one plus sign. -/
def unsigned? (limit : Nat) (s : List Char) : Option Nat :=
  let bare := if s.head? == some '+' then s.tail else s
  match marked? limit bare with
  | some n => some n
  | none =>
    if startsSigned bare || isPaddedDigits s then none
    else (natural? 10 bare).filter (· < limit)

def negated? (limit : Nat) (s : List Char) : Option Nat :=
  match s with
  | '-' :: bare =>
    match marked? (limit + 1) bare with
    | some n => some n
    | none => if isPaddedDigits s then none else (natural? 10 bare).filter (· ≤ limit)
  | _ => none

/-- An integer, which is refused if it fits in 128 bits but not in 64. -/
inductive IntegerReading
  | none
  | refused
  | integer (n : Int)
  deriving DecidableEq, Repr

def integer (s : List Char) : IntegerReading :=
  match unsigned? (Nat.pow 2 64) s, negated? (Nat.pow 2 63) s with
  | some n, _ => .integer n
  | .none, some n => .integer (-n)
  | .none, .none =>
    if (unsigned? (Nat.pow 2 128) s).isSome || (negated? (Nat.pow 2 127) s).isSome then .refused
    else .none

def exponent? (s : List Char) : Option Int :=
  match s with
  | '-' :: r => (natural? 10 r).map (-·)
  | '+' :: r => (natural? 10 r).map (·)
  | r => (natural? 10 r).map (·)

def decimal? (s : List Char) : Option Binary64 := do
  let negative := s.head? == some '-'
  let s := if startsSigned s then s.tail else s
  let whole := s.takeWhile (·.isDigit)
  let s := s.dropWhile (·.isDigit)
  let (fraction, s) :=
    if s.head? == some '.' then (s.tail.takeWhile (·.isDigit), s.tail.dropWhile (·.isDigit))
    else ([], s)
  let n ← natural? 10 (whole ++ fraction)
  let e : Int ← match s with
    | [] => some 0
    | 'e' :: r | 'E' :: r => exponent? r
    | _ => none
  some (Binary64.ofDecimal negative n (e - fraction.length))

def float? (text : String) : Option Binary64 :=
  let s := text.toList
  let bare := if s.head? == some '+' then s.tail else s
  if s.head? == some '+' && startsSigned bare then none
  else if [".inf", ".Inf", ".INF"].contains (String.ofList bare) then some (.infinite false)
  else if ["-.inf", "-.Inf", "-.INF"].contains text then some (.infinite true)
  else if [".nan", ".NaN", ".NAN"].contains text then some .nan
  else (decimal? bare).filter (·.isFinite)

def plain? (text : String) : Option Node :=
  if text == "" || isNull text then some .null
  else match bool? text with
    | some b => some (.bool b)
    | none =>
      match integer text.toList with
      | .refused => none
      | .integer n => some (.number (.integer n))
      | .none =>
        match (if isPaddedDigits text.toList then none else float? text) with
        | some x => some (.number (.float x))
        | none => some (.string text)

/-- A string that would be read as something else, or as nothing, if it stood unquoted. -/
def isMistakable (text : String) : Bool :=
  text == "" || isNull text || (bool? text).isSome || integer text.toList != .none ||
    isPaddedDigits text.toList || (float? text).isSome

def coreTag (name : String) : List UInt8 :=
  ("tag:yaml.org,2002:" ++ name).toList.map (·.toNat.toUInt8)

/-- The meaning of a scalar. A core tag decides the type, and without one only unquoted text can be
anything but a string. -/
def meaning? (tag : Option (List UInt8)) (plain : Bool) (text : String) : Option Node :=
  match tag with
  | none => if plain then plain? text else some (.string text)
  | some t =>
    if t == coreTag "bool" then (bool? text).map .bool
    else if t == coreTag "int" then
      match integer text.toList with
      | .integer n => some (.number (.integer n))
      | _ => none
    else if t == coreTag "float" then (float? text).map fun x ↦ .number (.float x)
    else if t == coreTag "null" then if isNull text then some .null else none
    else if t.head? == some 33 && plain then plain? text
    else some (.string text)

end ConfigKeeper.Yaml.Scalar

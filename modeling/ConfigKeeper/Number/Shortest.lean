import ConfigKeeper.Number.Binary64

namespace ConfigKeeper.Number

structure Decimal where
  digits : Nat
  exponent : Int
  deriving DecidableEq, Repr

namespace Binary64

/-- Doubled and quadrupled bounds of what rounds to `m * 2 ^ e`: the number itself, the lower and the
upper end, all times `4 / 2 ^ e`. Below a power of two the spacing halves. -/
def bounds (m : Nat) (e : Int) : Nat × Nat × Nat :=
  (4 * m, if m == Nat.pow 2 52 && minExponent < e then 4 * m - 1 else 4 * m - 2, 4 * m + 2)

def scaled (e k : Int) : Nat × Nat :=
  let two := if 0 ≤ e then (Nat.pow 2 e.toNat, 1) else (1, Nat.pow 2 (-e).toNat)
  let ten := if 0 ≤ k then (1, Nat.pow 10 k.toNat) else (Nat.pow 10 (-k).toNat, 1)
  (two.1 * ten.1, 4 * two.2 * ten.2)

/-- The point of the grid of multiples of `10 ^ k` that reads back as `m * 2 ^ e` and lies nearest to
it, the even one of two. -/
def onGrid (m : Nat) (e k : Int) : Option Decimal :=
  let (mid, low, high) := bounds m e
  let (num, den) := scaled e k
  let inside (d : Nat) : Bool :=
    if m % 2 == 0 then low * num ≤ d * den && d * den ≤ high * num
    else low * num < d * den && d * den < high * num
  let floor := mid * num / den
  let below := mid * num - floor * den
  let first := if 2 * below < den || (2 * below == den && floor % 2 == 0) then floor else floor + 1
  let second := if first == floor then floor + 1 else floor
  if first != 0 && inside first then some ⟨first, k⟩
  else if second != 0 && inside second then some ⟨second, k⟩
  else none

def findGrid (m : Nat) (e : Int) : Nat → Int → Decimal
  | 0, k => ⟨0, k⟩
  | steps + 1, k => (onGrid m e k).getD (findGrid m e steps (k - 1))

def trim : Nat → Decimal → Decimal
  | 0, d => d
  | steps + 1, d =>
    if d.digits != 0 && d.digits % 10 == 0 then trim steps ⟨d.digits / 10, d.exponent + 1⟩ else d

def shortest (m : Nat) (e : Int) : Decimal :=
  let magnitude : Int := ((m.log2 : Int) + e) * 30103 / 100000 + 2
  trim 400 (findGrid m e 25 magnitude)

def Decimal.text (d : Decimal) : String :=
  let ds := (toString d.digits).toList
  let length := ds.length
  let point : Int := length + d.exponent
  let chars :=
    if 0 ≤ d.exponent && point ≤ 16 then
      ds ++ List.replicate d.exponent.toNat '0' ++ ['.', '0']
    else if 0 < point && point ≤ 16 then
      ds.take point.toNat ++ ['.'] ++ ds.drop point.toNat
    else if -5 < point && point ≤ 0 then
      ['0', '.'] ++ List.replicate (-point).toNat '0' ++ ds
    else
      let mantissa := if length == 1 then ds else ds.take 1 ++ ['.'] ++ ds.drop 1
      mantissa ++ ['e'] ++ (toString (point - 1)).toList
  String.ofList chars

def text : Binary64 → String
  | .nan => ".nan"
  | .infinite negative => if negative then "-.inf" else ".inf"
  | .finite negative m e =>
    (if negative then "-" else "") ++ if m == 0 then "0.0" else Decimal.text (shortest m e)

end Binary64

end ConfigKeeper.Number

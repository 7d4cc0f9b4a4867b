import Elementwise.Number.Basic

/-!
# The text of a number

Integers up to `2 ^ 53` are written with all their digits, every other finite number by its
shortest decimal: the one with the fewest digits that rounds to the number, of two such decimals the
nearer one, and of two equally near ones the even one. The decimal is written positionally when its
point falls between six places left of the digits and 21 places right of their start, and with an
exponent otherwise. Both zeros are written `0`.
-/

namespace Elementwise

/-- The decimal number `digits · 10 ^ exponent`. -/
structure Decimal where
  digits : Nat
  exponent : Int
  deriving DecidableEq

namespace Decimal

def tenPow : Int → Rat
  | .ofNat n => mkRat (Nat.pow 10 n) 1
  | .negSucc n => mkRat 1 (Nat.pow 10 (n + 1))

def toRat (d : Decimal) : Rat := (d.digits : Rat) * tenPow d.exponent

/-- The exponent `e` with `10 ^ e ≤ q < 10 ^ (e + 1)`, for `q > 0`. -/
def leadingExponent (q : Rat) : Int :=
  let e : Int := ((Nat.toDigits 10 q.num.natAbs).length : Int) - (Nat.toDigits 10 q.den).length
  if tenPow e ≤ q then e else e - 1

def roundsTo (d : Decimal) (q : Rat) : Bool := Binary64.nearest d.toRat = some q

/-- The nearer to `q` of two neighbouring decimals, an exact tie going to the even one. -/
def nearer (q : Rat) (low high : Decimal) : Decimal :=
  let below := q - low.toRat
  let above := high.toRat - q
  if below < above then low
  else if above < below then high
  else if low.digits % 2 = 0 then low
  else high

/-- The multiple of `10 ^ e` that rounds to `q` and is nearest to it, if there is one. Only the two
neighbours of `q` need to be tried. -/
def onGrid? (q : Rat) (e : Int) : Option Decimal :=
  let low : Decimal := ⟨(q / tenPow e).floor.toNat, e⟩
  let high : Decimal := ⟨low.digits + 1, e⟩
  match low.roundsTo q, high.roundsTo q with
  | true, true => some (nearer q low high)
  | true, false => some low
  | false, true => some high
  | false, false => none

/-- The shortest decimal of a binary64 value `q > 0`. Seventeen digits always suffice. -/
def shortest (q : Rat) : Decimal :=
  let lead := leadingExponent q
  let hit := (List.range 17).findSome? fun (k : Nat) => onGrid? q (lead - (k : Int))
  hit.getD ⟨(q / tenPow (lead - 16)).floor.toNat, lead - 16⟩

/-! ### Writing decimals -/

/-- The digits without the zeros at their end. -/
def significantDigits (d : Decimal) : List Char :=
  ((Nat.toDigits 10 d.digits).reverse.dropWhile (· == '0')).reverse

/-- How many places after the start of the digits the decimal point stands. -/
def point (d : Decimal) : Int := ((Nat.toDigits 10 d.digits).length : Int) + d.exponent

/-- The exponent part: the mark, the sign and the digits. -/
def exponentPart (e : Int) : List Char :=
  'e' :: (if e < 0 then '-' else '+') :: Nat.toDigits 10 e.natAbs

def write (d : Decimal) : List Char :=
  let digits := d.significantDigits
  let point := d.point
  let count : Int := digits.length
  if count ≤ point ∧ point ≤ 21 then
    digits ++ List.replicate (point - count).toNat '0'
  else if 0 < point ∧ point ≤ 21 then
    digits.take point.toNat ++ '.' :: digits.drop point.toNat
  else if -6 < point ∧ point ≤ 0 then
    '0' :: '.' :: List.replicate (-point).toNat '0' ++ digits
  else
    match digits with
    | [] => exponentPart (point - 1)
    | [lead] => lead :: exponentPart (point - 1)
    | lead :: rest => lead :: '.' :: rest ++ exponentPart (point - 1)

end Decimal

namespace Number

/-- The text of a non-negative finite number. -/
def writeMagnitude (q : Rat) : List Char :=
  if q.den = 1 ∧ q.num.natAbs ≤ Nat.pow 2 53 then Nat.toDigits 10 q.num.natAbs
  else (Decimal.shortest q).write

def chars : Number → List Char
  | .nan => "NaN".toList
  | .infinity false => "Infinity".toList
  | .infinity true => "-Infinity".toList
  | .negZero => ['0']
  | .finite q => if q < 0 then '-' :: writeMagnitude (-q) else writeMagnitude q

def text (a : Number) : String := String.ofList a.chars

instance : ToString Number := ⟨text⟩

end Number

end Elementwise

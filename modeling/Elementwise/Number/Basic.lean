/-!
# Numbers

The numbers of the library are those of binary64 arithmetic: not-a-number, the two infinities, the
negative zero, and the finite values, kept as exact rationals. Every operation is carried out
exactly and then rounded once.

A positive rational is rounded to the nearest multiple of its unit in the last place, a tie going
to the even multiple. The unit keeps 53 significant bits and never falls below `2 ^ (-1074)`;
results from `2 ^ 1024` on are out of range.
-/

namespace Elementwise.Binary64

def twoPow : Int → Rat
  | .ofNat n => mkRat (Nat.pow 2 n) 1
  | .negSucc n => mkRat 1 (Nat.pow 2 (n + 1))

/-- The exponent `e` with `2 ^ e ≤ q < 2 ^ (e + 1)`, for `q > 0`. -/
def exponent (q : Rat) : Int :=
  let e : Int := (q.num.natAbs.log2 : Int) - (q.den.log2 : Int)
  if twoPow e ≤ q then e else e - 1

/-- The exponent of the unit in the last place of `q`. -/
def unitExponent (q : Rat) : Int :=
  if exponent q < -1022 then -1074 else exponent q - 52

/-- The nearest integer, a half going to the even neighbour. -/
def nearestInt (q : Rat) : Int :=
  let below := q.floor
  let rest := q - (below : Rat)
  if rest < mkRat 1 2 then below
  else if mkRat 1 2 < rest then below + 1
  else if below % 2 = 0 then below
  else below + 1

/-- The binary64 value nearest to `q > 0`, or `none` when it is out of range. -/
def nearest (q : Rat) : Option Rat :=
  let unit := twoPow (unitExponent q)
  let rounded := (nearestInt (q / unit) : Rat) * unit
  if rounded < twoPow 1024 then some rounded else none

end Elementwise.Binary64

namespace Elementwise

/-- A binary64 number. The positive zero is `finite 0`. -/
inductive Number where
  | nan
  | infinity (negative : Bool)
  | negZero
  | finite (value : Rat)
  deriving DecidableEq

namespace Number

instance : Inhabited Number := ⟨.nan⟩

/-- The integer `n`, taken as it is. -/
def ofInt (n : Int) : Number := .finite (n : Rat)

instance (n : Nat) : OfNat Number n := ⟨ofInt (n : Int)⟩

/-- The zero of the given sign. -/
def zero (negative : Bool) : Number := if negative then .negZero else .finite 0

/-- The number of the given sign nearest to the magnitude `q ≥ 0`. -/
def round (negative : Bool) (q : Rat) : Number :=
  if q = 0 then zero negative
  else
    match Binary64.nearest q with
    | none => .infinity negative
    | some r => if r = 0 then zero negative else .finite (if negative then -r else r)

/-- Whether the sign bit is set; not-a-number counts as unsigned. -/
def isNegative : Number → Bool
  | .nan => false
  | .infinity negative => negative
  | .negZero => true
  | .finite q => q < 0

def isZero : Number → Bool
  | .negZero => true
  | .finite q => q = 0
  | _ => false

def isInteger : Number → Bool
  | .negZero => true
  | .finite q => q.den = 1
  | _ => false

/-- The absolute value of a finite number, and `0` for the others. -/
def magnitude : Number → Rat
  | .finite q => q.abs
  | _ => 0

/-! ### Arithmetic -/

def mul (a b : Number) : Number :=
  let negative := a.isNegative != b.isNegative
  match a, b with
  | .nan, _ => .nan
  | _, .nan => .nan
  | .infinity _, b => if b.isZero then .nan else .infinity negative
  | a, .infinity _ => if a.isZero then .nan else .infinity negative
  | a, b => round negative (a.magnitude * b.magnitude)

def div (a b : Number) : Number :=
  let negative := a.isNegative != b.isNegative
  match a, b with
  | .nan, _ => .nan
  | _, .nan => .nan
  | .infinity _, .infinity _ => .nan
  | .infinity _, _ => .infinity negative
  | _, .infinity _ => zero negative
  | a, b =>
    if b.isZero then if a.isZero then .nan else .infinity negative
    else round negative (a.magnitude / b.magnitude)

instance : Mul Number := ⟨mul⟩
instance : Div Number := ⟨div⟩

def floor : Number → Number
  | .finite q => ofInt q.floor
  | a => a

/-- The least integer not below the number; from a negative fraction it is the negative zero. -/
def ceil : Number → Number
  | .finite q => if q < 0 ∧ q.ceil = 0 then .negZero else ofInt q.ceil
  | a => a

/-! ### Comparison -/

/-- The order of two numbers, or `none` when one of them is not-a-number. The zeros are equal. -/
def compare? : Number → Number → Option Ordering
  | .nan, _ => none
  | _, .nan => none
  | .infinity a, .infinity b => some (if a = b then .eq else if a then .lt else .gt)
  | .infinity a, _ => some (if a then .lt else .gt)
  | _, .infinity b => some (if b then .gt else .lt)
  | .finite p, .finite q => some (ratOrder p q)
  | .finite p, .negZero => some (ratOrder p 0)
  | .negZero, .finite q => some (ratOrder 0 q)
  | .negZero, .negZero => some .eq
where
  ratOrder (p q : Rat) : Ordering := if p < q then .lt else if q < p then .gt else .eq

def lt (a b : Number) : Bool := a.compare? b == some .lt

def le (a b : Number) : Bool := a.lt b || a.compare? b == some .eq

/-- Whether `a` and `b` are numerically equal: not-a-number equals nothing, the zeros are equal. -/
def eqv (a b : Number) : Bool := a.compare? b == some .eq

/-- Whether the number is an integer from 1 up. -/
def isPositiveInteger (a : Number) : Bool := a.isInteger && !a.lt 1

end Number

end Elementwise

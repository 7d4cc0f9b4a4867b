import Elementwise.Number.Basic
import Elementwise.Text

/-!
# Reading numbers

Two readers of written numbers. `Number.ofNumeral` takes a whole text: a decimal with optional
sign, fraction and exponent, an unsigned binary, octal or hexadecimal integer, or an infinity; an
empty text is zero and anything else is not a number. `Number.ofIntegerStart` takes the signed
digits a text starts with and ignores what follows them.
-/

namespace Elementwise.Number

/-- The number nearest to `digits · 10 ^ exponent`, with the given sign. The far ends of the range
are answered without computing the power. -/
def ofDecimal (negative : Bool) (digits : Nat) (exponent : Int) : Number :=
  if digits = 0 then zero negative
  else if 400 < exponent then .infinity negative
  else if exponent + (digits.log2 : Int) < -400 then zero negative
  else if 0 ≤ exponent then round negative (mkRat (digits * Nat.pow 10 exponent.toNat) 1)
  else round negative (mkRat digits (Nat.pow 10 (-exponent).toNat))

def digitsValue (digits : List Char) : Nat := Nat.ofDigitChars 10 digits 0

/-- The exponent written after the digits of a numeral: nothing, or a mark with signed digits. -/
def exponentValue? : List Char → Option Int
  | [] => some 0
  | mark :: rest =>
    let (negative, digits) := match rest with
      | '-' :: digits => (true, digits)
      | '+' :: digits => (false, digits)
      | digits => (false, digits)
    if (mark == 'e' || mark == 'E') && !digits.isEmpty && digits.all Char.isDigit then
      some (if negative then -(digitsValue digits : Int) else digitsValue digits)
    else none

/-- An unsigned decimal numeral. The fraction may be missing on either side of the point. -/
def ofUnsigned (negative : Bool) (text : List Char) : Number :=
  let whole := text.takeWhile Char.isDigit
  let rest := text.dropWhile Char.isDigit
  let fraction := match rest with
    | '.' :: rest => rest.takeWhile Char.isDigit
    | _ => []
  let rest := match rest with
    | '.' :: rest => rest.dropWhile Char.isDigit
    | rest => rest
  if whole.isEmpty && fraction.isEmpty then .nan
  else
    match exponentValue? rest with
    | some e => ofDecimal negative (digitsValue (whole ++ fraction)) (e - (fraction.length : Int))
    | none => .nan

/-- An unsigned decimal numeral or the word for the infinity. -/
def ofMagnitude (negative : Bool) (text : List Char) : Number :=
  if text = "Infinity".toList then .infinity negative else ofUnsigned negative text

/-- The value of a digit below the given base, with letters for the digits from ten up. -/
def digitBelow? (base : Nat) (c : Char) : Option Nat :=
  let value :=
    if c.isDigit then some (c.toNat - '0'.toNat)
    else if 'a' ≤ c ∧ c ≤ 'f' then some (c.toNat - 'a'.toNat + 10)
    else if 'A' ≤ c ∧ c ≤ 'F' then some (c.toNat - 'A'.toNat + 10)
    else none
  value.filter (· < base)

/-- The value of a run of digits in the given base, `none` when it is empty or holds another
character. -/
def valueInBase? (base : Nat) (digits : List Char) : Option Nat :=
  if digits.isEmpty then none
  else (digits.mapM (digitBelow? base)).map fun ds => ds.foldl (fun n d => base * n + d) 0

def ofBase (base : Nat) (digits : List Char) : Number :=
  match valueInBase? base digits with
  | some n => round false (mkRat n 1)
  | none => .nan

/-- The number that a whole text denotes. -/
def ofNumeral (text : List Char) : Number :=
  match Text.trim text with
  | [] => 0
  | '0' :: 'x' :: digits | '0' :: 'X' :: digits => ofBase 16 digits
  | '0' :: 'o' :: digits | '0' :: 'O' :: digits => ofBase 8 digits
  | '0' :: 'b' :: digits | '0' :: 'B' :: digits => ofBase 2 digits
  | '-' :: rest => ofMagnitude true rest
  | '+' :: rest => ofMagnitude false rest
  | rest => ofMagnitude false rest

/-- The integer denoted by the longest run of digits at the start. -/
def ofDigitStart (negative : Bool) (text : List Char) : Number :=
  match text.takeWhile Char.isDigit with
  | [] => .nan
  | digits => ofDecimal negative (digitsValue digits) 0

/-- The integer that a text starts with, after blanks and an optional sign. -/
def ofIntegerStart (text : List Char) : Number :=
  match Text.skipBlanks text with
  | '-' :: rest => ofDigitStart true rest
  | '+' :: rest => ofDigitStart false rest
  | rest => ofDigitStart false rest

end Elementwise.Number

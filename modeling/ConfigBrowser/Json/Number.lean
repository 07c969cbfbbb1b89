import ConfigBrowser.Json.Basic
import ConfigBrowser.Text.Digits

/-!
# Numbers in JSON Text

A number without point and exponent that fits 64 bits, signed or unsigned, is an integer; every
other number is a float. A float is read from a significand of at most 64 bits and a power of ten,
by one multiplication or division per power of ten up to `10 ^ 308`: digits that the significand
cannot hold are dropped, and a number beyond the range of floats is refused.

## Main results

* `integer_of_lt`: digits that fit 64 bits are read as that integer.
-/

namespace ConfigBrowser.Json

/-- The number that digits stand for. -/
def numeral (digits : List Nat) : Nat := digits.foldl (fun n d => 10 * n + d) 0

/-- A significand and a power of ten. -/
structure Scientific where
  significand : Nat
  exponent : Int
  /-- Has a digit been dropped? -/
  full : Bool
deriving DecidableEq, Repr

namespace Scientific

/-- The significand with one digit more, if it still fits 64 bits. -/
def push? (x : Scientific) (d : Nat) : Option Nat :=
  let next := 10 * x.significand + d
  if next < UInt64.size then some next else none

/-- Appends a digit before the point. -/
def pushWhole (x : Scientific) (d : Nat) : Scientific :=
  if x.full then { x with exponent := x.exponent + 1 }
  else
    match x.push? d with
    | some next => { x with significand := next }
    | none => { x with exponent := x.exponent + 1, full := true }

/-- Appends a digit after the point. Once one has been dropped, so are all that follow. -/
def pushFraction (x : Scientific) (d : Nat) : Scientific :=
  if x.full then x
  else
    match x.push? d with
    | some next => { x with significand := next, exponent := x.exponent - 1 }
    | none => { x with full := true }

/-- The number that the digits before the point stand for. -/
def ofWhole (digits : List Nat) : Scientific := digits.foldl pushWhole ⟨0, 0, false⟩

/-- The number with the digits after the point. -/
def withFraction (x : Scientific) (digits : List Nat) : Scientific :=
  digits.foldl pushFraction { x with full := false }

/-- Multiplies a float by a power of ten, in steps of `10 ^ 308` below that; `none` beyond the
range of floats. -/
def scale (f : Float) (exponent : Int) : Option Float :=
  if exponent.natAbs ≤ 308 then
    let power := Float.ofScientific 1 false exponent.natAbs
    if 0 ≤ exponent then
      let g := f * power
      if g.isInf then none else some g
    else some (f / power)
  else if f == 0.0 then some f
  else if 0 ≤ exponent then none
  else scale (f / Float.ofScientific 1 false 308) (exponent + 308)
termination_by exponent.natAbs
decreasing_by omega

/-- The float that a number is read as. -/
def toFloat? (x : Scientific) (negative : Bool) : Option Float :=
  (scale (UInt64.ofNat x.significand).toFloat x.exponent).map fun f => if negative then -f else f

/-- The number with a power of ten added, as a float. -/
def toJson? (x : Scientific) (negative : Bool) (exponent : Int) : Option Json :=
  (toFloat? { x with exponent := x.exponent + exponent } negative).map fun f => .float f.toBits

end Scientific

/-- The value of digits without point and exponent: an integer where it fits. Minus zero is a
float. -/
def integer (negative : Bool) (digits : List Nat) : Option Json :=
  let n := numeral digits
  if negative then
    if 0 < n ∧ n ≤ UInt64.size / 2 then some (.int (-n))
    else (Scientific.ofWhole digits).toJson? true 0
  else if n < UInt64.size then some (.int n)
  else (Scientific.ofWhole digits).toJson? false 0

/-- Digits of a number below 2^64 are read as that number. -/
theorem integer_of_lt {digits : List Nat} {n : Nat}
    (hn : numeral digits = n) (h : n < UInt64.size) :
    integer false digits = some (.int n) := by
  simp only [integer, Bool.false_eq_true, if_false, hn, if_pos h]

/-- Splits off the digits at the start of a text. -/
def spanDigits : List Char → List Nat × List Char
  | [] => ([], [])
  | c :: rest =>
    match Text.digitValue c with
    | some d => let (digits, after) := spanDigits rest; (d :: digits, after)
    | none => ([], c :: rest)

/-- Reads the power of ten after the letter e: a sign, or none, and at least one digit. -/
def readExponent (s : List Char) : Option (Int × List Char) :=
  let (sign, s) : Int × List Char := match s with
    | '-' :: rest => (-1, rest)
    | '+' :: rest => (1, rest)
    | _ => (1, s)
  match spanDigits s with
  | ([], _) => none
  | (digits, rest) => some (sign * numeral digits, rest)

/-- Reads the end of a float: an exponent, or nothing more. -/
def readScale (negative : Bool) (x : Scientific) (s : List Char) : Option (Json × List Char) :=
  match s with
  | 'e' :: rest | 'E' :: rest => do
    let (exponent, rest) ← readExponent rest
    return (← x.toJson? negative exponent, rest)
  | _ => (x.toJson? negative 0).map (·, s)

/-- Reads a number without its sign. There are no superfluous zeros in front, and at least one
digit follows a point. -/
def readMagnitude (negative : Bool) (s : List Char) : Option (Json × List Char) :=
  match spanDigits s with
  | ([], _) => none
  | (0 :: _ :: _, _) => none
  | (digits, rest) =>
    match rest with
    | '.' :: after =>
      match spanDigits after with
      | ([], _) => none
      | (fraction, after) =>
        readScale negative ((Scientific.ofWhole digits).withFraction fraction) after
    | 'e' :: _ | 'E' :: _ => readScale negative (.ofWhole digits) rest
    | _ => (integer negative digits).map (·, rest)

/-- Reads a number. -/
def readNumber : List Char → Option (Json × List Char)
  | '-' :: rest => readMagnitude true rest
  | s => readMagnitude false s

end ConfigBrowser.Json

/-!
# Shortest Decimals

The decimal with the fewest digits that reads back as a given 64-bit float, and of those the one
nearest to the float; of two that are equally near, the even one. A positive float is `m · 2 ^ q`;
the reals that round to it form an interval around it, whose ends belong to it exactly when `m` is
even. For one digit, two digits and so on, the two neighbours of the float among the decimals of
that many digits are tried; seventeen digits always suffice.

## Main results

* `Shortest.mem_of_pick`: the chosen decimal lies in the interval of the float.
-/

namespace ConfigBrowser

/-- A decimal `digits · 10 ^ exponent`. -/
structure Decimal where
  digits : Nat
  exponent : Int
deriving DecidableEq, Repr

namespace Decimal

/-- The reals that round to a float, in units of `2 ^ scale`: all between `low` and `high`. -/
structure Interval where
  /-- The float itself. -/
  centre : Nat
  low : Nat
  high : Nat
  /-- Do the two ends round to the float as well? -/
  closed : Bool
  scale : Int

/-- The interval of a positive finite float. Below a power of two the floats lie twice as close. -/
def Interval.ofBits (bits : UInt64) : Interval :=
  let exponent := (bits >>> 52).toNat % 2048
  let fraction := (bits &&& 0xfffffffffffff).toNat
  let m := if exponent = 0 then fraction else 0x10000000000000 + fraction
  let q : Int := if exponent = 0 then -1074 else exponent - 1075
  let below := if fraction = 0 ∧ 1 < exponent then 1 else 2
  ⟨4 * m, 4 * m - below, 4 * m + 2, m % 2 = 0, q - 2⟩

namespace Shortest

/-- `2 ^ scale / 10 ^ exponent` as a numerator. -/
def numerator (scale exponent : Int) : Nat :=
  Nat.pow 2 scale.toNat * Nat.pow 10 (-exponent).toNat

/-- `2 ^ scale / 10 ^ exponent` as a denominator. -/
def denominator (scale exponent : Int) : Nat :=
  Nat.pow 2 (-scale).toNat * Nat.pow 10 exponent.toNat

/-- Does a decimal with the given digits and exponent round to the float? -/
def contains (i : Interval) (exponent : Int) (digits : Nat) : Bool :=
  let num := numerator i.scale exponent
  let value := digits * denominator i.scale exponent
  if i.closed then i.low * num ≤ value && value ≤ i.high * num
  else i.low * num < value && value < i.high * num

/-- The power of ten just above the float: the least `k` with the float below `10 ^ k`. -/
def magnitude (i : Interval) : Int :=
  let guess := (Nat.log2 i.centre + i.scale) * 30103 / 100000 + 1
  let reaches (k : Int) : Bool := denominator i.scale k ≤ i.centre * numerator i.scale k
  if reaches guess then guess + 1 else if reaches (guess - 1) then guess else guess - 1

/-- Is the quotient nearer to the whole number below it than to the one above? From halfway between
them it goes to the even one. -/
def roundsDown (num den : Nat) : Bool :=
  2 * (num % den) < den || (2 * (num % den) = den && num / den % 2 = 0)

/-- Of the two neighbours of the float among the multiples of a power of ten, the one that rounds
to it; the nearer one if both do, and the even one if they are equally near. -/
def pick (i : Interval) (exponent : Int) : Option Decimal :=
  let num := i.centre * numerator i.scale exponent
  let den := denominator i.scale exponent
  let below := num / den
  let nearer := if roundsDown num den then below else below + 1
  let farther := if roundsDown num den then below + 1 else below
  if contains i exponent nearer then some ⟨nearer, exponent⟩
  else if contains i exponent farther then some ⟨farther, exponent⟩
  else none

/-- What is picked lies in the interval. -/
theorem mem_of_pick {i : Interval} {exponent : Int} {d : Decimal} (h : pick i exponent = some d) :
    contains i d.exponent d.digits := by
  rw [pick] at h
  grind

/-- The shortest decimal that reads back as a positive finite float. -/
def ofBits (bits : UInt64) : Decimal :=
  let i := Interval.ofBits bits
  let k := magnitude i
  ((List.range 17).findSome? fun n => pick i (k - ↑(n + 1 : Nat))).getD ⟨i.centre, 0⟩

end Shortest

/-- How decimals are laid out: numbers within the bounds in full, whole ones with `.0`, all others
with one digit before the point and an exponent, which always has its sign. -/
structure Layout where
  /-- The most digits before the point. -/
  maxWhole : Int
  /-- The most zeros between the point and the first digit. -/
  maxZeros : Int

/-- The layout of floats in JSON text: from `0.00001` up to below `10 ^ 16` in full. -/
def jsonLayout : Layout := ⟨16, 4⟩

/-- The text of a decimal whose digits are not zero. -/
def Layout.render (l : Layout) (d : Decimal) : List Char :=
  let all := Nat.toDigits 10 d.digits
  let digits := (all.reverse.dropWhile (· = '0')).reverse
  let point : Int := d.exponent + all.length
  let zeros (n : Int) := List.replicate n.toNat '0'
  if 0 < point ∧ point ≤ l.maxWhole then
    if digits.length ≤ point then digits ++ zeros (point - digits.length) ++ ['.', '0']
    else digits.take point.toNat ++ '.' :: digits.drop point.toNat
  else if -l.maxZeros ≤ point ∧ point ≤ 0 then
    ['0', '.'] ++ zeros (-point) ++ digits
  else
    let exponent := point - 1
    let sign := if exponent < 0 then '-' else '+'
    let fraction := if digits.length = 1 then [] else '.' :: digits.drop 1
    digits.take 1 ++ fraction ++ 'e' :: sign :: Nat.toDigits 10 exponent.natAbs

/-- The text of a finite float. -/
def renderFloat (l : Layout) (bits : UInt64) : List Char :=
  let sign := if bits >>> 63 = 1 then ['-'] else []
  let magnitude := bits &&& 0x7fffffffffffffff
  sign ++ if magnitude = 0 then ['0', '.', '0'] else l.render (Shortest.ofBits magnitude)

end Decimal

end ConfigBrowser

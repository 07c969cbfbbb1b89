/-!
# Decimal Digits

Reading and writing natural numbers in decimal. A reader of counts takes an optional plus sign
and at least one ASCII digit, and refuses a value that does not stay below its bound.

## Main results

* `valueOf_digitsOf`: reading the digits of a number gives the number.
* `readCount_digitsOf`: a number below the bound is read back from its digits.
-/

namespace ConfigBrowser.Text

/-- The value of a decimal digit. -/
def digitValue (c : Char) : Option Nat :=
  if '0' ≤ c ∧ c ≤ '9' then some (c.toNat - '0'.toNat) else none

/-- The value of a hexadecimal digit. -/
def hexValue (c : Char) : Option Nat :=
  if '0' ≤ c ∧ c ≤ '9' then some (c.toNat - '0'.toNat)
  else if 'a' ≤ c ∧ c ≤ 'f' then some (c.toNat - 'a'.toNat + 10)
  else if 'A' ≤ c ∧ c ≤ 'F' then some (c.toNat - 'A'.toNat + 10)
  else none

/-- The decimal digits of a number. -/
def digitsOf (n : Nat) : List Char := Nat.toDigits 10 n

/-- Continues the number `n` with more digits. -/
def valueFrom (n : Nat) : List Char → Option Nat
  | [] => some n
  | c :: rest => (digitValue c).bind fun d => valueFrom (10 * n + d) rest

/-- The number that a non-empty text of digits stands for. -/
def valueOf (s : List Char) : Option Nat := if s = [] then none else valueFrom 0 s

/-- Reads a number below `bound`, with or without a plus sign in front. -/
def readCount (bound : Nat) (s : List Char) : Option Nat :=
  let digits := match s with
    | '+' :: rest => rest
    | _ => s
  (valueOf digits).filter (· < bound)

/-! ### Laws -/

/-- A digit is read back from its character. -/
theorem digitValue_digitChar {d : Nat} (h : d < 10) : digitValue (Nat.digitChar d) = some d := by
  match d, h with
  | 0, _ | 1, _ | 2, _ | 3, _ | 4, _ | 5, _ | 6, _ | 7, _ | 8, _ | 9, _ => rfl

/-- Digits are read in parts. -/
theorem valueFrom_append (n : Nat) (s t : List Char) :
    valueFrom n (s ++ t) = (valueFrom n s).bind fun m => valueFrom m t := by
  induction s generalizing n with
  | nil => rfl
  | cons c rest ih =>
    cases h : digitValue c <;> simp [valueFrom, h, ih]

/-- A number is read back from its digits. -/
theorem valueFrom_digitsOf (n : Nat) : valueFrom 0 (digitsOf n) = some n := by
  induction n using Nat.strongRecOn with
  | _ n ih =>
    rcases Nat.lt_or_ge n 10 with h | h
    · simp [digitsOf, Nat.toDigits_of_lt_base h, valueFrom, digitValue_digitChar h]
    · have hsplit : digitsOf n = digitsOf (n / 10) ++ [Nat.digitChar (n % 10)] := by
        have hn : 10 * (n / 10) + n % 10 = n := Nat.div_add_mod n 10
        have := Nat.toDigits_append_toDigits (b := 10) (n := n / 10) (d := n % 10)
          (by decide) (by omega) (by omega)
        rw [hn, Nat.toDigits_of_lt_base (Nat.mod_lt n (by decide))] at this
        exact this.symm
      rw [hsplit, valueFrom_append, ih (n / 10) (by omega)]
      simp [valueFrom, digitValue_digitChar (Nat.mod_lt n (by decide : 0 < 10))]
      omega

/-- Every number has a digit. -/
theorem digitsOf_ne_nil (n : Nat) : digitsOf n ≠ [] := Nat.toDigits_ne_nil

/-- A number is the value of its digits. -/
theorem valueOf_digitsOf (n : Nat) : valueOf (digitsOf n) = some n := by
  simp [valueOf, digitsOf_ne_nil, valueFrom_digitsOf]

/-- A number below the bound is read back from its digits. -/
theorem readCount_digitsOf {n bound : Nat} (h : n < bound) :
    readCount bound (digitsOf n) = some n := by
  have hplus : ∀ rest, digitsOf n ≠ '+' :: rest := by
    intro rest heq
    have := valueFrom_digitsOf n
    rw [heq] at this
    simp [valueFrom, digitValue] at this
  rw [readCount.eq_def]
  split
  · next rest heq => exact absurd heq (hplus rest)
  · simp [valueOf_digitsOf, h]

end ConfigBrowser.Text

/-!
# Characters from Bytes

UTF-8 text of which a part may have been cut off. Bytes that begin or end in the middle of a
character become replacement characters: one for the longest start of a character, and one for
every other byte.

## Main results

* `decode_ascii`: ASCII bytes are the characters of the same numbers.
-/

namespace ConfigBrowser.Text

/-- Stands for bytes that are no character. -/
def replacement : Char := '\ufffd'

/-- Does the byte go on with a character? -/
def isContinuation (b : UInt8) : Bool := 0x80 ≤ b && b < 0xc0

/-- May the two bytes begin a character of three bytes? -/
def beginsThree (a b : UInt8) : Bool :=
  (a == 0xe0 && 0xa0 ≤ b && b < 0xc0) || (0xe1 ≤ a && a ≤ 0xec && isContinuation b) ||
    (a == 0xed && 0x80 ≤ b && b < 0xa0) || (0xee ≤ a && a ≤ 0xef && isContinuation b)

/-- May the two bytes begin a character of four bytes? -/
def beginsFour (a b : UInt8) : Bool :=
  (a == 0xf0 && 0x90 ≤ b && b < 0xc0) || (0xf1 ≤ a && a ≤ 0xf3 && isContinuation b) ||
    (a == 0xf4 && 0x80 ≤ b && b < 0x90)

/-- The bits that a continuation byte adds to a number. -/
def addBits (n : Nat) (b : UInt8) : Nat := 64 * n + b.toNat % 64

/-- The characters of bytes. -/
def decode : List UInt8 → List Char
  | [] => []
  | a :: rest =>
    if a < 0x80 then Char.ofNat a.toNat :: decode rest
    else
      match rest with
      | [] => [replacement]
      | b :: more =>
        if 0xc2 ≤ a && a < 0xe0 && isContinuation b then
          Char.ofNat (addBits (a.toNat % 32) b) :: decode more
        else if beginsThree a b then
          match more with
          | [] => [replacement]
          | c :: more =>
            if isContinuation c then
              Char.ofNat (addBits (addBits (a.toNat % 16) b) c) :: decode more
            else replacement :: decode (c :: more)
        else if beginsFour a b then
          match more with
          | [] => [replacement]
          | c :: more =>
            if isContinuation c then
              match more with
              | [] => [replacement]
              | d :: more =>
                if isContinuation d then
                  Char.ofNat (addBits (addBits (addBits (a.toNat % 8) b) c) d) :: decode more
                else replacement :: decode (d :: more)
            else replacement :: decode (c :: more)
        else replacement :: decode (b :: more)
termination_by s => s.length

/-- Bytes of ASCII are decoded one by one. -/
theorem decode_ascii {bytes : List UInt8} (h : ∀ b ∈ bytes, b < 0x80) :
    decode bytes = bytes.map fun b => Char.ofNat b.toNat := by
  induction bytes with
  | nil => simp [decode]
  | cons a rest ih =>
    rw [decode.eq_def]
    simp [h a List.mem_cons_self, ih fun b hb => h b (List.mem_cons_of_mem _ hb)]

end ConfigBrowser.Text

import ConfigBrowser.SortedMap

/-!
# JSON Values

The values of JSON text. Numbers without point and exponent are integers; all others are 64-bit
floats, kept by their bits so that values can be compared. An object keeps the members of its text
in order, repeated keys included: readers of typed values look at them as written, while a payload
that nobody looks into is brought to canonical form, with keys in order and without repetitions.

## Main results

* `Json.canonicalFields_sorted`: canonical members have strictly increasing keys.
-/

namespace ConfigBrowser

/-- A JSON value. -/
inductive Json where
  | null
  | bool (b : Bool)
  | int (i : Int)
  /-- A 64-bit float, by its bits. -/
  | float (bits : UInt64)
  | string (s : String)
  | array (items : List Json)
  | object (fields : List (String × Json))
deriving Inhabited, Repr

namespace Json

mutual

/-- Decides whether two values are equal. -/
def decEq : (a b : Json) → Decidable (a = b)
  | .null, .null => isTrue rfl
  | .bool a, .bool b => decidable_of_iff (a = b) ⟨congrArg _, fun h => by injection h⟩
  | .int a, .int b => decidable_of_iff (a = b) ⟨congrArg _, fun h => by injection h⟩
  | .float a, .float b => decidable_of_iff (a = b) ⟨congrArg _, fun h => by injection h⟩
  | .string a, .string b => decidable_of_iff (a = b) ⟨congrArg _, fun h => by injection h⟩
  | .array a, .array b =>
    have := decEqItems a b
    decidable_of_iff (a = b) ⟨congrArg _, fun h => by injection h⟩
  | .object a, .object b =>
    have := decEqFields a b
    decidable_of_iff (a = b) ⟨congrArg _, fun h => by injection h⟩
  | .null, .bool _ | .null, .int _ | .null, .float _ | .null, .string _ | .null, .array _
  | .null, .object _ | .bool _, .null | .bool _, .int _ | .bool _, .float _ | .bool _, .string _
  | .bool _, .array _ | .bool _, .object _ | .int _, .null | .int _, .bool _ | .int _, .float _
  | .int _, .string _ | .int _, .array _ | .int _, .object _ | .float _, .null | .float _, .bool _
  | .float _, .int _ | .float _, .string _ | .float _, .array _ | .float _, .object _
  | .string _, .null | .string _, .bool _ | .string _, .int _ | .string _, .float _
  | .string _, .array _ | .string _, .object _ | .array _, .null | .array _, .bool _
  | .array _, .int _ | .array _, .float _ | .array _, .string _ | .array _, .object _
  | .object _, .null | .object _, .bool _ | .object _, .int _ | .object _, .float _
  | .object _, .string _ | .object _, .array _ => isFalse (by simp)

/-- Decides whether two lists of items are equal. -/
def decEqItems : (a b : List Json) → Decidable (a = b)
  | [], [] => isTrue rfl
  | [], _ :: _ | _ :: _, [] => isFalse (by simp)
  | x :: xs, y :: ys =>
    have := decEq x y
    have := decEqItems xs ys
    decidable_of_iff (x = y ∧ xs = ys) (by simp)

/-- Decides whether two lists of members are equal. -/
def decEqFields : (a b : List (String × Json)) → Decidable (a = b)
  | [], [] => isTrue rfl
  | [], _ :: _ | _ :: _, [] => isFalse (by simp)
  | (k, x) :: xs, (l, y) :: ys =>
    have := decEq x y
    have := decEqFields xs ys
    decidable_of_iff (k = l ∧ x = y ∧ xs = ys) (by simp [and_assoc])

end

instance : DecidableEq Json := decEq

mutual

/-- The value with the members of every object in key order; of members with equal keys the last
one stays. -/
def canonical : Json → Json
  | .array items => .array (canonicalItems items)
  | .object fields => .object (canonicalFields fields).entries
  | j => j

/-- Every item in canonical form. -/
def canonicalItems : List Json → List Json
  | [] => []
  | j :: rest => canonical j :: canonicalItems rest

/-- The members of an object in canonical form, as a map. -/
def canonicalFields : List (String × Json) → SortedMap String Json
  | [] => .empty
  | (k, j) :: rest =>
    let later := canonicalFields rest
    if later.contains k then later else later.insert k (canonical j)

end

/-- The fields of an object stand in the order of their keys, each key once. -/
theorem canonicalFields_sorted (fields : List (String × Json)) :
    (canonicalFields fields).entries.Pairwise fun a b => compare a.1 b.1 = .lt :=
  (canonicalFields fields).sorted

/-- The members of an object. -/
def fields? : Json → Option (List (String × Json))
  | .object fields => some fields
  | _ => none

/-- The value of an object's first member with a given key. -/
def field? (j : Json) (key : String) : Option Json := j.fields?.bind (·.lookup key)

/-- An optional value, `null` where there is none. -/
def ofOption {α : Type} (encode : α → Json) : Option α → Json
  | some a => encode a
  | none => .null

/-- A list of encoded items. -/
def ofList {α : Type} (encode : α → Json) (items : List α) : Json := .array (items.map encode)

/-- A number that counts. -/
def ofNat (n : Nat) : Json := .int n

/-- An object whose members are strings, in the order of a map. -/
def ofStrings (m : SortedMap String String) : Json :=
  .object (m.entries.map fun (k, v) => (k, .string v))

end Json

end ConfigBrowser

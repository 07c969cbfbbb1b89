/-!
# Sets of Characters

A set of characters is kept as the code points at which membership changes, in ascending order. So
each set has one form, and all operations on two sets are one walk along both.

## Main results

* `CharSet.contains_combine`: whether a combination of two sets holds a character depends on whether
  each of them does.
* `CharSet.contains_range`, `CharSet.contains_only`: what a range and a single character hold.
-/

namespace ConfigBrowser.Text

/-- A set of characters. -/
structure CharSet where
  /-- The code points that begin a run of members or the run of others behind it, in turn. -/
  bounds : List Nat
  ascending : bounds.Pairwise (· < ·) := by decide
deriving DecidableEq, Repr

namespace CharSet

/-! ### Members -/

/-- The state at a code point, when membership changes at each of the bounds. -/
def stateAt (state : Bool) : List Nat → Nat → Bool
  | [], _ => state
  | bound :: rest, n => if n < bound then state else stateAt (!state) rest n

/-- Does the set hold the character? -/
def contains (s : CharSet) (c : Char) : Bool := stateAt false s.bounds c.toNat

/-- The set without a member. -/
def empty : CharSet := { bounds := [] }

/-- The set of all characters. -/
def all : CharSet := { bounds := [0] }

/-- The characters from the first to the last one. -/
def range (first last : Char) : CharSet :=
  if h : first ≤ last then
    if last.toNat = 0x10ffff then { bounds := [first.toNat], ascending := by simp }
    else
      { bounds := [first.toNat, last.toNat + 1]
        ascending := by simpa using Nat.lt_succ_of_le h }
  else empty

/-- The set of one character. -/
def only (c : Char) : CharSet := range c c

/-- The only member of a set, if it has no other. -/
def single? (s : CharSet) : Option Char :=
  match s.bounds with
  | [first] => if first = 0x10ffff then some (Char.ofNat first) else none
  | [first, last] => if last = first + 1 then some (Char.ofNat first) else none
  | _ => none

/-- Are all members ASCII? -/
def isAscii (s : CharSet) : Bool := s.bounds.length % 2 = 0 && s.bounds.all (· ≤ 0x80)

/-! ### Operations -/

/-- The bounds behind a code point at which the state may change. -/
def change (n : Nat) (before after : Bool) (rest : List Nat) : List Nat :=
  if before = after then rest else n :: rest

/-- The bounds of a combination, from the states on. -/
def merge (f : Bool → Bool → Bool) (a b : Bool) : List Nat → List Nat → List Nat
  | [], [] => []
  | m :: ms, [] => change m (f a b) (f (!a) b) (merge f (!a) b ms [])
  | [], n :: ns => change n (f a b) (f a (!b)) (merge f a (!b) [] ns)
  | m :: ms, n :: ns =>
    if m < n then change m (f a b) (f (!a) b) (merge f (!a) b ms (n :: ns))
    else if n < m then change n (f a b) (f a (!b)) (merge f a (!b) (m :: ms) ns)
    else change m (f a b) (f (!a) (!b)) (merge f (!a) (!b) ms ns)
termination_by ms ns => ms.length + ns.length

/-- A bound after a possible change is the new one, or comes behind it. -/
theorem mem_of_mem_change {x n : Nat} {before after : Bool} {rest : List Nat}
    (h : x ∈ change n before after rest) : x = n ∨ x ∈ rest := by
  rw [change] at h
  split at h
  · exact .inr h
  · exact List.mem_cons.1 h

/-- Membership in a combination changes only where it does in one of the sets. -/
theorem mem_of_mem_merge {f : Bool → Bool → Bool} {a b : Bool} {ms ns : List Nat} {x : Nat}
    (h : x ∈ merge f a b ms ns) : x ∈ ms ∨ x ∈ ns := by
  fun_induction merge f a b ms ns with
  | case1 => simp at h
  | case2 a b m ms ih =>
    rcases mem_of_mem_change h with rfl | h
    · exact .inl List.mem_cons_self
    · exact (ih h).imp (List.mem_cons_of_mem _) id
  | case3 a b n ns ih =>
    rcases mem_of_mem_change h with rfl | h
    · exact .inr List.mem_cons_self
    · exact (ih h).imp id (List.mem_cons_of_mem _)
  | case4 a b m ms n ns _ ih =>
    rcases mem_of_mem_change h with rfl | h
    · exact .inl List.mem_cons_self
    · exact (ih h).imp (List.mem_cons_of_mem _) id
  | case5 a b m ms n ns _ _ ih =>
    rcases mem_of_mem_change h with rfl | h
    · exact .inr List.mem_cons_self
    · exact (ih h).imp id (List.mem_cons_of_mem _)
  | case6 a b m ms n ns _ _ ih =>
    rcases mem_of_mem_change h with rfl | h
    · exact .inl List.mem_cons_self
    · exact (ih h).imp (List.mem_cons_of_mem _) (List.mem_cons_of_mem _)

/-- A change in front of greater bounds keeps them in ascending order. -/
theorem pairwise_change {n : Nat} {before after : Bool} {rest : List Nat}
    (hlt : ∀ x ∈ rest, n < x) (hrest : rest.Pairwise (· < ·)) :
    (change n before after rest).Pairwise (· < ·) := by
  rw [change]
  split
  · exact hrest
  · exact List.pairwise_cons.2 ⟨hlt, hrest⟩

/-- The state changes at the bound if it changes there at all. -/
theorem stateAt_change {n : Nat} {before after : Bool} {rest : List Nat} (c : Nat)
    (hlt : ∀ x ∈ rest, n < x) :
    stateAt before (change n before after rest) c =
      if c < n then before else stateAt after rest c := by
  have hrest : c < n → ∀ state, stateAt state rest c = state := by
    intro hc state
    cases rest with
    | nil => rfl
    | cons x xs => simp [stateAt, Nat.lt_trans hc (hlt x List.mem_cons_self)]
  rw [change]
  split
  · next h =>
    subst h
    split
    · next hc => exact hrest hc _
    · rfl
  · next h =>
    have : after = !before := by cases before <;> cases after <;> simp_all
    simp [stateAt, this]

/-- The bounds of a combination are as great as those of the sets. -/
theorem lt_of_mem_merge {f : Bool → Bool → Bool} {a b : Bool} {ms ns : List Nat} {k : Nat}
    (hms : ∀ x ∈ ms, k < x) (hns : ∀ x ∈ ns, k < x) : ∀ x ∈ merge f a b ms ns, k < x :=
  fun x hx => (mem_of_mem_merge hx).elim (hms x) (hns x)

/-- Bounds in ascending order are greater than what the first one is greater than. -/
theorem lt_of_mem_cons {k n : Nat} {ns : List Nat} (hk : k < n) (h : (n :: ns).Pairwise (· < ·)) :
    ∀ x ∈ n :: ns, k < x := by
  intro x hx
  rcases List.mem_cons.1 hx with rfl | hx
  · exact hk
  · exact Nat.lt_trans hk (List.rel_of_pairwise_cons h hx)

/-- The bounds of a combination are in ascending order. -/
theorem pairwise_merge {f : Bool → Bool → Bool} {a b : Bool} {ms ns : List Nat}
    (hms : ms.Pairwise (· < ·)) (hns : ns.Pairwise (· < ·)) :
    (merge f a b ms ns).Pairwise (· < ·) := by
  fun_induction merge f a b ms ns with
  | case1 => exact .nil
  | case2 a b m ms ih =>
    have hm := List.pairwise_cons.1 hms
    exact pairwise_change (lt_of_mem_merge hm.1 (by simp)) (ih hm.2 hns)
  | case3 a b n ns ih =>
    have hn := List.pairwise_cons.1 hns
    exact pairwise_change (lt_of_mem_merge (by simp) hn.1) (ih hms hn.2)
  | case4 a b m ms n ns h ih =>
    have hm := List.pairwise_cons.1 hms
    exact pairwise_change (lt_of_mem_merge hm.1 (lt_of_mem_cons h hns)) (ih hm.2 hns)
  | case5 a b m ms n ns _ h ih =>
    have hn := List.pairwise_cons.1 hns
    exact pairwise_change (lt_of_mem_merge (lt_of_mem_cons h hms) hn.1) (ih hms hn.2)
  | case6 a b m ms n ns h h' ih =>
    obtain rfl : m = n := Nat.le_antisymm (Nat.not_lt.1 h') (Nat.not_lt.1 h)
    have hm := List.pairwise_cons.1 hms
    have hn := List.pairwise_cons.1 hns
    exact pairwise_change (lt_of_mem_merge hm.1 hn.1) (ih hm.2 hn.2)

/-- The state of a combination is that of the combined states, at every code point. -/
theorem stateAt_merge {f : Bool → Bool → Bool} {a b : Bool} {ms ns : List Nat} (c : Nat)
    (hms : ms.Pairwise (· < ·)) (hns : ns.Pairwise (· < ·)) :
    stateAt (f a b) (merge f a b ms ns) c = f (stateAt a ms c) (stateAt b ns c) := by
  fun_induction merge f a b ms ns with
  | case1 => rfl
  | case2 a b m ms ih =>
    have hm := List.pairwise_cons.1 hms
    rw [stateAt_change c (lt_of_mem_merge hm.1 (by simp)), ih hm.2 hns]
    by_cases h : c < m <;> simp [stateAt, h]
  | case3 a b n ns ih =>
    have hn := List.pairwise_cons.1 hns
    rw [stateAt_change c (lt_of_mem_merge (by simp) hn.1), ih hms hn.2]
    by_cases h : c < n <;> simp [stateAt, h]
  | case4 a b m ms n ns hlt ih =>
    have hm := List.pairwise_cons.1 hms
    rw [stateAt_change c (lt_of_mem_merge hm.1 (lt_of_mem_cons hlt hns)), ih hm.2 hns]
    by_cases h : c < m
    · simp [stateAt, h, Nat.lt_trans h hlt]
    · simp [stateAt, h]
  | case5 a b m ms n ns _ hlt ih =>
    have hn := List.pairwise_cons.1 hns
    rw [stateAt_change c (lt_of_mem_merge (lt_of_mem_cons hlt hms) hn.1), ih hms hn.2]
    by_cases h : c < n
    · simp [stateAt, h, Nat.lt_trans h hlt]
    · simp [stateAt, h]
  | case6 a b m ms n ns h h' ih =>
    obtain rfl : m = n := Nat.le_antisymm (Nat.not_lt.1 h') (Nat.not_lt.1 h)
    have hm := List.pairwise_cons.1 hms
    have hn := List.pairwise_cons.1 hns
    rw [stateAt_change c (lt_of_mem_merge hm.1 hn.1), ih hm.2 hn.2]
    by_cases h : c < m <;> simp [stateAt, h]

/-- The set of what `f` says of membership in one set and in another one. -/
def combine (f : Bool → Bool → Bool) (s t : CharSet) : CharSet :=
  { bounds := merge f false false s.bounds t.bounds
    ascending := pairwise_merge s.ascending t.ascending }

/-- The characters in either of two sets. -/
def union : CharSet → CharSet → CharSet := combine or

/-- The characters in both of two sets. -/
def inter : CharSet → CharSet → CharSet := combine and

/-- The characters in the first set and not in the second one. -/
def diff : CharSet → CharSet → CharSet := combine fun a b => a && !b

/-- The characters in one of two sets, but not in both. -/
def symmDiff : CharSet → CharSet → CharSet := combine xor

/-- The characters that are not in a set. -/
def compl (s : CharSet) : CharSet := all.diff s

/-- The characters in one of some ranges. -/
def ofRanges (ranges : List (Char × Char)) : CharSet :=
  ranges.foldl (fun s (first, last) => s.union (range first last)) empty

/-- The set with the other case of each of its ASCII letters. -/
def bothCases (s : CharSet) : CharSet :=
  "abcdefghijklmnopqrstuvwxyz".toList.foldl (fun t c =>
    if s.contains c || s.contains c.toUpper then (t.union (only c)).union (only c.toUpper) else t) s

/-! ### Sets with a name -/

/-- The sets of ASCII characters that have a name. -/
def named : List (String × List (Char × Char)) :=
  [("alnum", [('0', '9'), ('A', 'Z'), ('a', 'z')]),
   ("alpha", [('A', 'Z'), ('a', 'z')]),
   ("ascii", [('\x00', '\x7f')]),
   ("blank", [('\t', '\t'), (' ', ' ')]),
   ("cntrl", [('\x00', '\x1f'), ('\x7f', '\x7f')]),
   ("digit", [('0', '9')]),
   ("graph", [('!', '~')]),
   ("lower", [('a', 'z')]),
   ("print", [(' ', '~')]),
   ("punct", [('!', '/'), (':', '@'), ('[', '\x60'), ('\x7b', '~')]),
   ("space", [('\t', '\r'), (' ', ' ')]),
   ("upper", [('A', 'Z')]),
   ("word", [('0', '9'), ('A', 'Z'), ('_', '_'), ('a', 'z')]),
   ("xdigit", [('0', '9'), ('A', 'F'), ('a', 'f')])]

/-- The set of a name. -/
def ofName? (name : String) : Option CharSet := (named.lookup name).map ofRanges

/-! ### Laws -/

/-- A combination holds a character as the members combine. -/
theorem contains_combine {f : Bool → Bool → Bool} (hf : f false false = false) (s t : CharSet)
    (c : Char) : (combine f s t).contains c = f (s.contains c) (t.contains c) := by
  have h := stateAt_merge (f := f) (a := false) (b := false) c.toNat s.ascending t.ascending
  rwa [hf] at h

/-- A union holds what either set holds. -/
theorem contains_union (s t : CharSet) (c : Char) :
    (s.union t).contains c = (s.contains c || t.contains c) := contains_combine rfl s t c

/-- An intersection holds what both sets hold. -/
theorem contains_inter (s t : CharSet) (c : Char) :
    (s.inter t).contains c = (s.contains c && t.contains c) := contains_combine rfl s t c

/-- A complement holds what the set does not hold. -/
theorem contains_compl (s : CharSet) (c : Char) : s.compl.contains c = !s.contains c := by
  rw [compl, diff, contains_combine rfl]
  simp [contains, all, stateAt]

/-- A range holds the characters from its first to its last one. -/
theorem contains_range (first last c : Char) :
    (range first last).contains c = decide (first ≤ c ∧ c ≤ last) := by
  have hval : c.toNat ≤ 0x10ffff := by
    have := c.valid
    simp only [UInt32.isValidChar, Nat.isValidChar] at this
    simp only [Char.toNat]
    omega
  have hfirst : first ≤ c ↔ first.toNat ≤ c.toNat := Iff.rfl
  have hlast : c ≤ last ↔ c.toNat ≤ last.toNat := Iff.rfl
  have hle : first ≤ last ↔ first.toNat ≤ last.toNat := Iff.rfl
  rw [Bool.eq_iff_iff, decide_eq_true_iff, hfirst, hlast]
  rw [range]
  split
  · split <;> simp only [contains, stateAt] <;> grind
  · simp only [contains, stateAt, empty]
    grind

/-- A set of one character holds that one alone. -/
theorem contains_only (c d : Char) : (only c).contains d = decide (d = c) := by
  rw [only, contains_range, decide_eq_decide]
  exact ⟨fun h => Char.le_antisymm h.2 h.1, fun h => h ▸ ⟨Char.le_refl _, Char.le_refl _⟩⟩

end CharSet

end ConfigBrowser.Text

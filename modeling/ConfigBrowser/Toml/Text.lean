import ConfigBrowser.Text.Digits

/-!
# Strings in TOML Text

The four ways to write a string: basic or literal, on one line or on several. Basic strings know
escapes, literal ones do not. Inside triple quotes one or two quotes may stand, and a line feed
right after the opening quotes is not part of the string. Readers start behind the opening quotes
and give the rest of the text behind the closing ones.

Line ends are line feeds alone: a reader of documents brings them to this form first.

## Main results

* `Toml.readLiteral_append`: a literal string is what stands between its quotes.
-/

namespace ConfigBrowser.Toml

/-- May the character stand in a document as it is? A line feed may stand between lines only. -/
def isPlain (c : Char) : Bool := c = '\t' || (' ' ≤ c && c ≠ '\x7f')

/-- Is the character one that may stand between tokens of a line? -/
def isGap (c : Char) : Bool := c = ' ' || c = '\t'

/-- Is the character one that may stand between lines? -/
def isLineGap (c : Char) : Bool := isGap c || c = '\n'

/-- The character that a letter stands for after a backslash. -/
def shortEscape : Char → Option Char
  | 'b' => some '\x08'
  | 't' => some '\t'
  | 'n' => some '\n'
  | 'f' => some '\x0c'
  | 'r' => some '\r'
  | '"' => some '"'
  | '\\' => some '\\'
  | _ => none

/-- The number that hexadecimal digits stand for. -/
def hexNumeral (n : Nat) : List Char → Option Nat
  | [] => some n
  | c :: rest => (Text.hexValue c).bind fun d => hexNumeral (16 * n + d) rest

/-- The character whose code hexadecimal digits give. -/
def ofCode (digits : List Char) : Option Char := do
  let n ← hexNumeral 0 digits
  if n.isValidChar then return Char.ofNat n else none

/-- Reads an escape behind its backslash. -/
def readEscape : List Char → Option (Char × List Char)
  | 'u' :: rest =>
    if rest.length < 4 then none else (ofCode (rest.take 4)).map fun c => (c, rest.drop 4)
  | 'U' :: rest =>
    if rest.length < 8 then none else (ofCode (rest.take 8)).map fun c => (c, rest.drop 8)
  | c :: rest => (shortEscape c).map fun c => (c, rest)
  | [] => none

/-- An escape takes at least one character. -/
theorem length_of_readEscape {s rest : List Char} {c : Char} (h : readEscape s = some (c, rest)) :
    rest.length < s.length := by
  rw [readEscape.eq_def] at h
  split at h
  · split at h
    · simp at h
    · obtain ⟨d, _, heq⟩ := Option.map_eq_some_iff.1 h
      obtain ⟨-, rfl⟩ := Prod.mk.inj heq
      simp only [List.length_drop, List.length_cons]
      omega
  · split at h
    · simp at h
    · obtain ⟨d, _, heq⟩ := Option.map_eq_some_iff.1 h
      obtain ⟨-, rfl⟩ := Prod.mk.inj heq
      simp only [List.length_drop, List.length_cons]
      omega
  · obtain ⟨d, _, heq⟩ := Option.map_eq_some_iff.1 h
    obtain ⟨-, rfl⟩ := Prod.mk.inj heq
    exact Nat.lt_succ_self _
  · simp at h

/-- Reads a basic string on one line; `done` holds the characters already read, in reverse. -/
def readBasic (done : List Char) : List Char → Option (List Char × List Char)
  | [] => none
  | '"' :: rest => some (done.reverse, rest)
  | '\\' :: rest =>
    match h : readEscape rest with
    | some (c, after) =>
      have := length_of_readEscape h
      readBasic (c :: done) after
    | none => none
  | c :: rest => if isPlain c then readBasic (c :: done) rest else none
termination_by s => s.length
decreasing_by
  all_goals simp_wf
  omega

/-- Reads a literal string on one line. -/
def readLiteral (done : List Char) : List Char → Option (List Char × List Char)
  | [] => none
  | '\'' :: rest => some (done.reverse, rest)
  | c :: rest => if isPlain c then readLiteral (c :: done) rest else none

/-- Reads the closing quotes of a string on several lines, which up to two quotes of the string
itself may precede. -/
def readClose (quote : Char) : List Char → Option (List Char × List Char)
  | a :: b :: c :: rest =>
    if a = quote ∧ b = quote ∧ c = quote then
      let extra := (rest.take 2).takeWhile (· = quote)
      some (extra, rest.drop extra.length)
    else none
  | _ => none

/-- Reads a basic string on several lines. A backslash at the end of a line joins it to the next
text, whatever blanks and line feeds are between. -/
def readLongBasic (done : List Char) (s : List Char) : Option (List Char × List Char) :=
  match readClose '"' s with
  | some (extra, rest) => some (done.reverse ++ extra, rest)
  | none =>
    match s with
    | [] => none
    | '\\' :: rest =>
      match rest.dropWhile isGap with
      | '\n' :: _ => readLongBasic done (rest.dropWhile isLineGap)
      | _ =>
        match h : readEscape rest with
        | some (c, after) =>
          have := length_of_readEscape h
          readLongBasic (c :: done) after
        | none => none
    | c :: rest => if isPlain c || c = '\n' then readLongBasic (c :: done) rest else none
termination_by s.length
decreasing_by
  all_goals simp_wf
  · have := (List.dropWhile_sublist isLineGap (l := rest)).length_le
    omega
  · omega

/-- Reads a literal string on several lines. -/
def readLongLiteral (done : List Char) (s : List Char) : Option (List Char × List Char) :=
  match readClose '\'' s with
  | some (extra, rest) => some (done.reverse ++ extra, rest)
  | none =>
    match s with
    | [] => none
    | c :: rest => if isPlain c || c = '\n' then readLongLiteral (c :: done) rest else none

/-- The text without the line feed at its start. -/
def dropLineFeed : List Char → List Char
  | '\n' :: rest => rest
  | s => s

/-- Reads a string on one line. -/
def readShortString : List Char → Option (List Char × List Char)
  | '"' :: rest => readBasic [] rest
  | '\'' :: rest => readLiteral [] rest
  | _ => none

/-- Reads a string. -/
def readString : List Char → Option (List Char × List Char)
  | '"' :: '"' :: '"' :: rest => readLongBasic [] (dropLineFeed rest)
  | '\'' :: '\'' :: '\'' :: rest => readLongLiteral [] (dropLineFeed rest)
  | s => readShortString s

/-- Plain characters of a literal are read as they are, up to its quote. -/
theorem readLiteral_append {plain : List Char} (h : ∀ c ∈ plain, isPlain c ∧ c ≠ '\'')
    (done rest : List Char) :
    readLiteral done (plain ++ '\'' :: rest) = some (done.reverse ++ plain, rest) := by
  induction plain generalizing done with
  | nil => simp [readLiteral]
  | cons c plain ih =>
    obtain ⟨hplain, hquote⟩ := h c List.mem_cons_self
    rw [List.cons_append, readLiteral]
    · simp [hplain, ih fun x hx => h x (List.mem_cons_of_mem _ hx)]
    · exact hquote

end ConfigBrowser.Toml

import ConfigBrowser.Log.Note
import ConfigBrowser.Text.Alphanumeric
import ConfigBrowser.Text.Blank
import ConfigBrowser.Text.Digits
import ConfigBrowser.Text.Regex.Program
import ConfigBrowser.Text.Regex.Reader
import ConfigBrowser.Text.Slice
import ConfigBrowser.Text.Split

/-!
# What is Logged

A filter is a list of directives between commas. A directive may name a target, with which the names
of the parts of the program begin that it holds for, a span and a field, and it has a threshold:

    confview::app[handle_event{event=Timer.*}]=debug

A directive without a span and without the value of a field is about notes. Of those that hold for a
note the one that says most decides: the one with the longest target or, among these, one with a
field. A directive with a span or a field is about spans, too: while a span is open for which it
holds, notes pass up to its threshold wherever they come from. Of directives for the same target,
span and field the last counts.

A threshold is a level or `off`, by name or by rank; where there is none, everything passes.

The parts of a directive are found in its text without the blanks around it, but they are cut out of
the whole text at the same numbers of bytes. So a blank in front shifts them, and may even make a
cut fall into a character, which is no fault that a replay goes on with.

## Main results

* `Filter.passes_of_le`: what passes at one level passes at every level more severe.
-/

namespace ConfigBrowser.Log

/-- What a directive asks of a field. -/
structure FieldTest where
  name : List Char
  /-- What the value has to be, if it matters. -/
  value : Option (List Char)
deriving DecidableEq, Repr

/-- A directive of a filter. -/
structure Directive where
  /-- What the names of the parts of the program begin with that the directive holds for. -/
  target : Option (List Char)
  /-- The name of the spans that the directive is about. -/
  span : Option (List Char)
  /-- The field that a span or a note has to have. -/
  field : Option FieldTest
  /-- Levels of this rank or a lower one pass. -/
  threshold : Nat
deriving DecidableEq, Repr

/-! ### Values -/

/-- Is the text one of digits, at most one dot among them? -/
def isFixed (s : List Char) : Bool :=
  match Text.cut (· = '.') s with
  | some (whole, rest) => (whole ++ rest) ≠ [] && (whole ++ rest).all Char.isDigit
  | none => s ≠ [] && s.all Char.isDigit

/-- A text without the sign at its start. -/
def dropSign : List Char → List Char
  | '+' :: rest => rest
  | '-' :: rest => rest
  | s => s

/-- Does a text stand for a number? -/
def isNumber (s : List Char) : Bool :=
  let s := (dropSign s).map Char.toLower
  ["inf", "infinity", "nan"].contains (String.ofList s) ||
    match Text.cut (· = 'e') s with
    | some (body, exponent) =>
      let digits := dropSign exponent
      isFixed body && digits ≠ [] && digits.all Char.isDigit
    | none => isFixed s

/-- Does a test ask for a truth value or a number? The values of fields are texts, which are neither
of them. -/
def isLiteral (value : List Char) : Bool :=
  value = "true".toList || value = "false".toList || isNumber value

namespace FieldTest

/-- Can a value of the form that is asked for be told? -/
def isReadable (value : List Char) : Bool := isLiteral value || (Text.Regex.parse? value).isSome

/-- The test of a text: the name of a field, or its name and value around an equals sign. -/
def read? (text : List Char) : Option FieldTest :=
  match Text.splitOn '=' text with
  | [] => none
  | [name] => some ⟨name, none⟩
  | name :: value :: _ => if isReadable value then some ⟨name, some value⟩ else none

/-- Does a text pass as the value of the field? -/
def accepts (t : FieldTest) (text : String) : Bool :=
  match t.value with
  | none => true
  | some value =>
    !isLiteral value && (Text.Regex.parse? value).any fun a => a.accepts text.toList

end FieldTest

/-! ### Reading directives -/

/-- The names of the thresholds with their ranks. -/
def thresholds : List (String × Nat) :=
  [("off", 0), ("error", 1), ("warn", 2), ("info", 3), ("debug", 4), ("trace", 5)]

/-- The rank of a threshold, by its name in upper or lower case or by its number. -/
def readThreshold (word : List Char) : Option Nat :=
  match Text.readCount 6 word with
  | some n => some n
  | none => thresholds.lookup (String.ofList (word.map Char.toLower))

/-- Why a text is no directive. -/
inductive Fault where
  | unreadable
  /-- A part of the text begins or ends inside of a character. -/
  | torn
deriving DecidableEq, Repr

/-- The value, or that the text cannot be read. -/
def readable {α : Type} : Option α → Except Fault α
  | some a => .ok a
  | none => .error .unreadable

/-- The part of a text, or that it would tear a character. -/
def untorn {α : Type} : Option α → Except Fault α
  | some a => .ok a
  | none => .error .torn

namespace Directive

/-- The directive that lets everything pass. -/
def blank : Directive := ⟨none, none, none, Level.trace.rank⟩

/-- What part of a directive is being read; a part with a text holds where that began. -/
inductive Part where
  | start
  | word (start : Nat)
  | span (start : Nat)
  | field (start : Nat)
  | afterField
  | afterSpan
  | threshold (start : Nat)
deriving DecidableEq, Repr

/-- May a word begin with the character? -/
def canBegin (c : Char) : Bool :=
  c = '-' || c = ':' || c = '_' || Text.isAlphanumeric c

/-- Reads a character, the one behind `i` bytes, of the directive of a text. -/
def readChar (text : List Char) (i : Nat) (c : Char) (d : Directive) :
    Part → Except Fault (Directive × Part)
  | .start =>
    if c = '[' then .ok (d, .span (i + 1))
    else if canBegin c then .ok (d, .word i)
    else .error .unreadable
  | .word start =>
    if c = '=' ∨ c = '[' then do
      let target ← untorn (Text.slice start i text)
      let next := if c = '=' then Part.threshold (i + 1) else .span (i + 1)
      return ({ d with target := some target }, next)
    else .ok (d, .word start)
  | .span start =>
    if c = ']' then do
      return ({ d with span := some (← untorn (Text.slice start i text)) }, .afterSpan)
    else if c = '{' then do
      let name ← untorn (Text.slice start i text)
      return ({ d with span := if name = [] then none else some name }, .field (i + 1))
    else .ok (d, .span start)
  | .field start =>
    if c = '}' then do
      let test ← untorn (Text.slice start i text)
      if test = [] then throw .unreadable
      return ({ d with field := some (← readable (FieldTest.read? test)) }, .afterField)
    else .ok (d, .field start)
  | .afterField => if c = ']' then .ok (d, .afterSpan) else .error .unreadable
  | .afterSpan => if c = '=' then .ok (d, .threshold (i + 1)) else .error .unreadable
  | .threshold start => .ok (d, .threshold start)

/-- Reads the characters behind `i` bytes. -/
def readChars (text : List Char) (i : Nat) (d : Directive) (part : Part) :
    List Char → Except Fault (Directive × Part)
  | [] => .ok (d, part)
  | c :: rest => do
    let (d, part) ← readChar text i c d part
    readChars text (i + c.utf8Size) d part rest

/-- The directive of a text whose end was reached. A single word is a threshold or a target. -/
def finish (text : List Char) (d : Directive) : Part → Except Fault Directive
  | .word start => do
    let word ← untorn (Text.dropBytes start text)
    match readThreshold word with
    | some rank => return { d with threshold := rank }
    | none => return { d with target := some word }
  | .threshold start => do
    let word ← untorn (Text.dropBytes start text)
    if word = [] then return d
    else return { d with threshold := ← readable (readThreshold word) }
  | .afterSpan => .ok d
  | _ => .error .unreadable

/-- The directive of a text. -/
def read (text : List Char) : Except Fault Directive := do
  let (d, part) ← readChars text 0 blank .start (Text.trim text)
  finish text d part

/-! ### What a directive holds for -/

/-- Is the directive about the values of fields? -/
def hasValue (d : Directive) : Bool := d.field.any fun t => t.value.isSome

/-- Is the directive about notes? -/
def isStatic (d : Directive) : Bool := d.span.isNone && !d.hasValue

/-- Is the directive about spans? -/
def isDynamic (d : Directive) : Bool := d.span.isSome || d.field.isSome

/-- Does a target include a part of the program, and is there a field for the directive? -/
def covers (d : Directive) (topic : Topic) (keys : List String) : Bool :=
  d.target.all (·.isPrefixOf topic.name.toList) &&
    d.field.all fun t => keys.contains (String.ofList t.name)

/-- Do two directives have the same target, span and field? -/
def isRival (d e : Directive) : Bool :=
  d.target = e.target && d.span = e.span && d.field = e.field

/-- Does a directive say no more than another one? -/
def isVaguer (d e : Directive) : Bool :=
  let size (target : Option (List Char)) : Nat :=
    target.elim 0 fun target => (String.ofList target).utf8ByteSize + 1
  let name (d : Directive) : String := String.ofList (d.field.elim [] FieldTest.name)
  let order := (compare (size d.target) (size e.target)).then <|
    (compare d.field.isSome e.field.isSome).then (compare (name d) (name e))
  order.isLE

/-- Does the directive hold for a span of work? -/
def holdsFor (d : Directive) (s : Span) : Bool :=
  d.covers s.topic s.keys && d.span.all (· = s.name.toList)

/-- Does a span have the value that the directive asks for? -/
def accepts (d : Directive) (s : Span) : Bool :=
  d.field.all fun t =>
    s.fields.any fun (key, text) => key.toList = t.name && t.accepts text

end Directive

/-! ### Filters -/

/-- The directives of a filter. -/
structure Filter where
  directives : List Directive
deriving DecidableEq, Repr

namespace Filter

/-- The filter that lets a level and all more severe ones pass. -/
def upTo (level : Level) : Filter := ⟨[{ Directive.blank with threshold := level.rank }]⟩

/-- The filter of a text, if all its directives can be read. Without a directive only errors
pass. -/
def read (text : String) : Except Fault Filter := do
  match ← ((Text.splitOn ',' text.toList).filter (· ≠ [])).mapM Directive.read with
  | [] => return upTo .error
  | directives => return ⟨directives⟩

/-- The filter of the settings. One that is missing or cannot be read lets notes pass, but there is
no filter if one of its parts would tear a character. -/
def ofSetting? : Option String → Option Filter
  | none => some (upTo .info)
  | some text =>
    match read text with
    | .ok f => some f
    | .error .unreadable => some (upTo .info)
    | .error .torn => none

/-- Directives without those that a later one takes the place of. -/
def latest : List Directive → List Directive
  | [] => []
  | d :: rest => if rest.any d.isRival then latest rest else d :: latest rest

/-- The directive that says most. -/
def mostSpecific : List Directive → Option Directive
  | [] => none
  | d :: rest =>
    match mostSpecific rest with
    | some best => some (if d.isVaguer best then best else d)
    | none => some d

/-- The highest rank that passes for notes of a part of the program with fields of the given
names. -/
def threshold (f : Filter) (topic : Topic) (keys : List String) : Nat :=
  let directives := (latest f.directives).filter fun d => d.isStatic && d.covers topic keys
  (mostSpecific directives).elim 0 Directive.threshold

/-- The highest threshold among directives. -/
def highest (directives : List Directive) : Nat :=
  directives.foldl (fun rank d => max rank d.threshold) 0

/-- The highest rank that can pass at all. What value a field has is known only once its span is
open, so that a filter that asks for one has to look at every span. -/
def bound (f : Filter) : Nat :=
  if f.directives.any Directive.hasValue then Level.trace.rank else highest f.directives

/-- The highest rank that passes because a span is open. -/
def spanThreshold (f : Filter) (s : Span) : Nat :=
  if f.bound < Span.level.rank then 0
  else
    highest ((latest f.directives).filter fun d => d.isDynamic && d.holdsFor s && d.accepts s)

/-- Does a note pass while spans are open that let notes up to the given ranks pass? -/
def passes (f : Filter) (scope : List Nat) (n : Note) : Bool :=
  scope.any (n.level.rank ≤ ·) || n.level.rank ≤ f.threshold n.topic n.keys

/-- What is graver passes as well. -/
theorem passes_of_le {f : Filter} {scope : List Nat} {n : Note} {level : Level}
    (hle : level.rank ≤ n.level.rank) (hn : f.passes scope n = true) :
    f.passes scope { n with level } = true := by
  simp only [passes, Bool.or_eq_true, List.any_eq_true] at hn ⊢
  rcases hn with ⟨rank, hmem, h⟩ | h
  · exact .inl ⟨rank, hmem, decide_eq_true (Nat.le_trans hle (of_decide_eq_true h))⟩
  · exact .inr (decide_eq_true (Nat.le_trans hle (of_decide_eq_true h)))

end Filter

end ConfigBrowser.Log

import ConfigBrowser.Text.Split

/-!
# Paths

Paths are texts whose parts are separated by slashes. They are kept as they were written; what they
lead to is found by taking their steps one by one, and the normal form names where they end.

## Main results

* `Path.join_of_absolute`: joining an absolute path gives that path.
* `Path.expandHome_of_not_tilde`: paths that do not begin with a tilde are not expanded.
* `Position.up_enter`: a step back undoes a step into a folder.
-/

namespace ConfigBrowser

namespace Path

/-- Does the path begin at the root? -/
def isAbsolute : List Char → Bool
  | '/' :: _ => true
  | _ => false

/-- A path inside another one. An absolute path stays as it is. -/
def joinChars (base path : List Char) : List Char :=
  if isAbsolute path then path
  else if base = [] ∨ base.getLast? = some '/' then base ++ path
  else base ++ '/' :: path

/-- A path inside another one. -/
def join (base path : String) : String := String.ofList (joinChars base.toList path.toList)

/-- The path with a tilde at its start, alone or before a slash, replaced by the home folder. -/
def expandHome (home : Option String) (path : String) : String :=
  match home with
  | none => path
  | some home =>
    match path.toList with
    | ['~'] => home
    | '~' :: '/' :: rest => join home (String.ofList rest)
    | _ => path

/-- An absolute path is not joined to anything. -/
theorem join_of_absolute (base : String) {path : String} (h : isAbsolute path.toList = true) :
    join base path = path := by
  simp [join, joinChars, h]

/-- Only a path that begins with a tilde is expanded. -/
theorem expandHome_of_not_tilde (home : Option String) {path : String}
    (h : path.toList.head? ≠ some '~') : expandHome home path = path := by
  rw [expandHome.eq_def]
  split
  · rfl
  · split <;> simp_all

/-! ### Steps -/

/-- The step back to the folder that a position is in. -/
def back : List Char := ['.', '.']

/-- The steps of a path. A single dot and an empty part lead nowhere. -/
def steps (path : List Char) : List (List Char) :=
  (Text.splitOn '/' path).filter fun part => part ≠ [] && part ≠ ['.']

/-- Does the end of a path say that it leads to a folder? -/
def endsInFolder (path : List Char) : Bool :=
  match (Text.splitOn '/' path).getLast? with
  | some part => part = [] || part = ['.'] || part = back
  | none => true

/-- The most bytes that a name may have. -/
def nameLimit : Nat := 255

/-- A path has fewer bytes than this. -/
def pathLimit : Nat := 4096

/-- Is the text too long for a name? -/
def isLongName (name : List Char) : Bool := nameLimit < (String.ofList name).utf8ByteSize

/-- Is the path one that no folder could follow? -/
def isRefused (path : List Char) : Bool :=
  path.contains (Char.ofNat 0) || pathLimit ≤ (String.ofList path).utf8ByteSize

/-- The name of the file that a path leads to inside the folder where it begins, if it is there. -/
def nameHere? (path : List Char) : Option (List Char) :=
  match steps path with
  | [name] => if isAbsolute path || endsInFolder path || isLongName name then none else some name
  | _ => none

/-! ### Extensions -/

/-- The name of a file without its extension. A dot at the start begins no extension. -/
def stem (name : List Char) : List Char :=
  match (name.reverse.dropWhile (· ≠ '.')).drop 1 with
  | [] => name
  | rest => rest.reverse

/-- The parts of a path with another extension for the last of them that is a name; they come in
reverse. A path that ends with a step back has no name. -/
def extendParts (extension : List Char) : List (List Char) → Option (List (List Char))
  | [] => none
  | part :: rest =>
    if part = [] ∨ part = ['.'] then extendParts extension rest
    else if part = back then none
    else some ((stem part ++ '.' :: extension) :: rest)

/-- The path of a file with another extension. A path without a name at its end stays as it is. -/
def withExtension (path extension : String) : String :=
  match extendParts extension.toList (Text.splitOn '/' path.toList).reverse with
  | some parts => String.ofList (['/'].intercalate parts.reverse)
  | none => path

end Path

/-! ### Positions -/

/-- A position among folders, seen from the working folder or from the root. -/
structure Position where
  absolute : Bool
  /-- The names on the way and the steps back from the working folder, the last in front. -/
  steps : List (List Char)
deriving DecidableEq, Repr

namespace Position

/-- Where a path begins. -/
def start (path : List Char) : Position := ⟨Path.isAbsolute path, []⟩

/-- The folder that a position is in. The root is in itself. -/
def up (p : Position) : Position :=
  match p.steps with
  | [] => if p.absolute then p else { p with steps := [Path.back] }
  | last :: rest =>
    if last = Path.back then { p with steps := Path.back :: p.steps } else { p with steps := rest }

/-- A position in a folder. -/
def enter (p : Position) (name : List Char) : Position := { p with steps := name :: p.steps }

/-- Is the working folder or the root at the position, or a folder that the working folder is
in? -/
def isAbove (p : Position) : Bool := p.steps.all (· = Path.back)

/-- Is the position in no folder of the working folder? -/
def isOutside (p : Position) : Bool := p.absolute || p.steps.getLast? = some Path.back

/-- The normal form of the paths that lead to a position. -/
def path (p : Position) : String :=
  let body := ['/'].intercalate p.steps.reverse
  String.ofList (if p.absolute then '/' :: body else body)

/-- The way up leads back from where a name was entered. -/
theorem up_enter (p : Position) {name : List Char} (h : name ≠ Path.back) :
    (p.enter name).up = p := by
  simp [up, enter, h]

end Position

end ConfigBrowser

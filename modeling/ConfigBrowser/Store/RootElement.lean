import ConfigBrowser.Text.Blank

/-!
# The Root Element of a Document

The type of a new entity is the name of the first element of its document. A `<` that a question
mark or an exclamation mark follows opens no element: it belongs to a declaration, an instruction
or a comment.

## Main results

* `rootElement_skip`: text without `<` in front of a document does not change its root element.
-/

namespace ConfigBrowser.Store

/-- Does the character end the name of an element? -/
def endsName (c : Char) : Bool := Text.isBlank c || c == '>' || c == '/'

/-- The name of the element at the start of a text, if it has one. -/
def elementName (s : List Char) : Option (List Char) :=
  let name := s.takeWhile fun c => !endsName c
  if name = [] then none else some name

/-- Does a text behind a `<` belong to a declaration, an instruction or a comment? -/
def opensMarkup (s : List Char) : Bool := s.head? == some '?' || s.head? == some '!'

/-- The name of the first element of a document. -/
def rootElement : List Char → Option (List Char)
  | [] => none
  | c :: rest => if c = '<' ∧ !opensMarkup rest then elementName rest else rootElement rest

/-- What stands before the first angle bracket does not matter. -/
theorem rootElement_skip {before : List Char} (h : '<' ∉ before) (s : List Char) :
    rootElement (before ++ s) = rootElement s := by
  induction before with
  | nil => rfl
  | cons c before ih =>
    have hc : c ≠ '<' := fun e => h (e ▸ List.mem_cons_self)
    simp [rootElement, hc, ih fun m => h (List.mem_cons_of_mem _ m)]

end ConfigBrowser.Store

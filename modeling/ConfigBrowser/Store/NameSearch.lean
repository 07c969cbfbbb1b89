import ConfigBrowser.Text.Blank

/-!
# Searching Names

A name matches a pattern when the characters of the pattern occur in it in order, with anything
between them. Asterisks in the pattern are dropped. ASCII letters match in either case unless the
pattern has an ASCII capital.

## Main results

* `nameMatches_iff`: the pattern matches when it is the name with characters left out, once both
  are read as the pattern's case asks for.
-/

namespace ConfigBrowser.Store

/-- Does the pattern tell capitals from small letters? -/
def isCaseSensitive (pattern : List Char) : Bool := pattern.any Char.isUpper

/-- What a character counts as: itself, or its small letter where case does not matter. -/
def caseKey (caseSensitive : Bool) (c : Char) : Char := if caseSensitive then c else c.toLower

/-- Does the name match the pattern? -/
def nameMatches (pattern name : List Char) : Bool :=
  let key := caseKey (isCaseSensitive pattern)
  (pattern.map key).isSublist (name.map key)

/-- The pattern of a search text, if it restricts the search at all. -/
def patternOf (text : String) : Option (List Char) :=
  let pattern := text.toList.filter (· ≠ '*')
  if pattern.all Text.isBlank then none else some pattern

/-- A name matches if the pattern can be read off it by leaving characters out, where case counts
only if the pattern says so. -/
theorem nameMatches_iff {pattern name : List Char} :
    nameMatches pattern name ↔
      List.Sublist (pattern.map (caseKey (isCaseSensitive pattern)))
        (name.map (caseKey (isCaseSensitive pattern))) :=
  List.isSublist_iff_sublist

end ConfigBrowser.Store

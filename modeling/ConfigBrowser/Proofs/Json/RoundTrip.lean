import ConfigBrowser.Proofs.Json.Tokens
import Mathlib

/-!
# Reading back JSON Text

The two layouts of JSON text differ in their gaps alone. Whatever the gaps are, a value is read back
from its text if it is wanted as a whole, has no floats and no integers beyond 64 bits, and does not
nest too deep.

## Main results

* `Json.spell_compact`, `Json.spell_indented`: both layouts as choices of gaps.
* `Json.readValue_spell`: a value is read back from the front of a text.
* `Json.parseAs_compact`, `Json.parseAs_pretty`: a value is read back from its text.
-/

namespace ConfigBrowser.Json

/-! ### Layouts -/

/-- The gaps of a layout. -/
structure Spacing where
  /-- In front of the items and members of a level, and in front of the bracket after them. -/
  line : Nat → List Char
  /-- Behind a colon. -/
  colon : List Char
  blank_line : ∀ level, Blank (line level)
  blank_colon : Blank colon

/-- The layout without gaps. -/
def Spacing.compact : Spacing := ⟨fun _ => [], [], fun _ => blank_nil, blank_nil⟩

/-- The layout with `step` blanks to the level. -/
def Spacing.indented (step : Nat) : Spacing :=
  ⟨newLine step, [' '], blank_newLine step, by simp [Blank, isGap]⟩

mutual

/-- The text of a value in a layout. -/
def spell (sp : Spacing) (level : Nat) : Json → List Char
  | .array (item :: items) =>
    '[' :: sp.line (level + 1) ++ spell sp (level + 1) item ++ spellItems sp level items ++
      sp.line level ++ [']']
  | .object ((key, value) :: fields) =>
    '{' :: sp.line (level + 1) ++ renderString key ++ ':' :: sp.colon ++
      spell sp (level + 1) value ++ spellFields sp level fields ++ sp.line level ++ ['}']
  | j => renderScalar j

/-- Further items, each after a comma. -/
def spellItems (sp : Spacing) (level : Nat) : List Json → List Char
  | [] => []
  | item :: items =>
    ',' :: sp.line (level + 1) ++ spell sp (level + 1) item ++ spellItems sp level items

/-- Further members, each after a comma. -/
def spellFields (sp : Spacing) (level : Nat) : List (String × Json) → List Char
  | [] => []
  | (key, value) :: fields =>
    ',' :: sp.line (level + 1) ++ renderString key ++ ':' :: sp.colon ++
      spell sp (level + 1) value ++ spellFields sp level fields

end

mutual

/-- Compact text is the text without gaps. -/
theorem spell_compact (level : Nat) : (j : Json) → spell .compact level j = render j
  | .array (item :: items) => by
      rw [spell, render, spell_compact _ item, spellItems_compact _ items]
      simp [Spacing.compact]
  | .object ((key, value) :: fields) => by
      rw [spell, render, spell_compact _ value, spellFields_compact _ fields]
      simp [Spacing.compact]
  | .null | .bool _ | .int _ | .float _ | .string _ | .array [] | .object [] => rfl

/-- Items without gaps are the items of the compact layout. -/
theorem spellItems_compact (level : Nat) :
    (items : List Json) → spellItems .compact level items = renderItems items
  | [] => rfl
  | item :: items => by
      rw [spellItems, renderItems, spell_compact _ item, spellItems_compact _ items]
      simp [Spacing.compact]

/-- Members without gaps are the members of the compact layout. -/
theorem spellFields_compact (level : Nat) :
    (fields : List (String × Json)) → spellFields .compact level fields = renderFields fields
  | [] => rfl
  | (key, value) :: fields => by
      rw [spellFields, renderFields, spell_compact _ value, spellFields_compact _ fields]
      simp [Spacing.compact]

end

mutual

/-- Indented text is the text with lines and a blank after each colon. -/
theorem spell_indented (step level : Nat) :
    (j : Json) → spell (.indented step) level j = indent step level j
  | .array (item :: items) => by
      rw [spell, indent, spell_indented _ _ item, spellItems_indented _ _ items]
      rfl
  | .object ((key, value) :: fields) => by
      rw [spell, indent, spell_indented _ _ value, spellFields_indented _ _ fields]
      simp [Spacing.indented]
  | .null | .bool _ | .int _ | .float _ | .string _ | .array [] | .object [] => rfl

/-- Items with the gaps of an indentation are the items of the indented layout. -/
theorem spellItems_indented (step level : Nat) :
    (items : List Json) → spellItems (.indented step) level items = indentItems step level items
  | [] => rfl
  | item :: items => by
      rw [spellItems, indentItems, spell_indented _ _ item, spellItems_indented _ _ items]
      rfl

/-- Members with the gaps of an indentation are those of the indented layout. -/
theorem spellFields_indented (step level : Nat) : (fields : List (String × Json)) →
    spellFields (.indented step) level fields = indentFields step level fields
  | [] => rfl
  | (key, value) :: fields => by
      rw [spellFields, indentFields, spell_indented _ _ value, spellFields_indented _ _ fields]
      simp [Spacing.indented]

end

/-! ### Values that are read back -/

mutual

/-- Is a value one that is read back where it may nest to a depth and is wanted in a shape? -/
def Readable (depth : Nat) (shape : Shape) : Json → Prop
  | .null | .bool _ | .string _ => True
  | .int i => -(UInt64.size / 2 : Nat) ≤ i ∧ i < UInt64.size
  | .float _ => False
  | .array items => 1 < depth ∧ ReadableItems (depth - 1) shape items
  | .object fields => 1 < depth ∧ ReadableFields (depth - 1) shape fields

/-- Are the items of an array read back? -/
def ReadableItems (depth : Nat) (shape : Shape) : List Json → Prop
  | [] => True
  | item :: items =>
    Readable depth shape.uncons.1 item ∧ ReadableItems depth shape.uncons.2 items

/-- Are the members of an object wanted and read back? -/
def ReadableFields (depth : Nat) (shape : Shape) : List (String × Json) → Prop
  | [] => True
  | (key, value) :: fields =>
    (∃ wanted, shape.member? key = some wanted ∧ Readable depth wanted value) ∧
      ReadableFields depth shape fields

end

/-! ### Steps of the reader -/

section Steps

variable {fuel depth : Nat} {shape wanted : Shape} {s t rest : List Char}

/-- Behind a gap there is none. -/
theorem skipGap_skipGap (s : List Char) : skipGap (skipGap s) = skipGap s :=
  List.dropWhile_idempotent _ _

/-- A gap in front of a value is passed over. -/
theorem readValue_skipGap :
    readValue fuel depth shape (skipGap s) = readValue fuel depth shape s := by
  cases fuel with
  | zero => rfl
  | succ fuel => rw [readValue, readValue, skipGap_skipGap]

/-- A gap in front of an item is passed over. -/
theorem readItems_skipGap :
    readItems fuel depth shape (skipGap s) = readItems fuel depth shape s := by
  cases fuel with
  | zero => rfl
  | succ fuel => rw [readItems, readItems, readValue_skipGap]

/-- A gap in front of a member is passed over. -/
theorem readFields_skipGap :
    readFields fuel depth shape (skipGap s) = readFields fuel depth shape s := by
  cases fuel with
  | zero => rfl
  | succ fuel => rw [readFields, readFields, skipGap_skipGap]

section Gaps

variable {gap : List Char} (hgap : Blank gap)

include hgap

/-- A gap in front of a value is skipped. -/
theorem readValue_append :
    readValue fuel depth shape (gap ++ s) = readValue fuel depth shape s := by
  rw [← readValue_skipGap, skipGap_append hgap, readValue_skipGap]

/-- Items are read behind any gap. -/
theorem readItems_append :
    readItems fuel depth shape (gap ++ s) = readItems fuel depth shape s := by
  rw [← readItems_skipGap, skipGap_append hgap, readItems_skipGap]

/-- Members are read behind any gap. -/
theorem readFields_append :
    readFields fuel depth shape (gap ++ s) = readFields fuel depth shape s := by
  rw [← readFields_skipGap, skipGap_append hgap, readFields_skipGap]

end Gaps

/-- An array is read by its items. -/
theorem readValue_array {items : List Json} (hopen : ∀ t, skipGap s ≠ ']' :: t)
    (hitems : readItems fuel (depth + 1) shape s = some (items, rest)) :
    readValue (fuel + 1) (depth + 2) shape ('[' :: s) = some (.array items, rest) := by
  simp only [readValue, skipGap_cons (show isGap '[' = false from rfl)]
  rw [readItems_skipGap, hitems, Option.map_some]

/-- An object is read by its members. -/
theorem readValue_object {fields : List (String × Json)} (hopen : ∀ t, skipGap s ≠ '}' :: t)
    (hfields : readFields fuel (depth + 1) shape s = some (fields, rest)) :
    readValue (fuel + 1) (depth + 2) shape ('{' :: s) = some (.object fields, rest) := by
  simp only [readValue, skipGap_cons (show isGap '{' = false from rfl)]
  rw [readFields_skipGap, hfields, Option.map_some]

/-- An item that the end of the list follows is the last one. -/
theorem readItems_last {item : Json}
    (hitem : readValue fuel depth shape.uncons.1 s = some (item, t))
    (ht : skipGap t = ']' :: rest) :
    readItems (fuel + 1) depth shape s = some ([item], rest) := by
  simp [readItems, hitem, ht]

/-- An item that a comma follows is read in front of the others. -/
theorem readItems_cons {item : Json} {items : List Json} {u : List Char}
    (hitem : readValue fuel depth shape.uncons.1 s = some (item, t))
    (ht : skipGap t = ',' :: u)
    (hitems : readItems fuel depth shape.uncons.2 u = some (items, rest)) :
    readItems (fuel + 1) depth shape s = some (item :: items, rest) := by
  simp [readItems, hitem, ht, hitems]

/-- A member that the end of the object follows is the last one. -/
theorem readFields_last {key : String} {value : Json} (hwanted : shape.member? key = some wanted)
    (hvalue : readValue fuel depth wanted s = some (value, t)) (ht : skipGap t = '}' :: rest) :
    readFields (fuel + 1) depth shape (renderString key ++ ':' :: s) =
      some ([(key, value)], rest) := by
  rw [renderString, readFields]
  simp [skipGap_cons, isGap, readString_renderString, hwanted, hvalue, ht]

/-- A member that a comma follows is read in front of the others. -/
theorem readFields_cons {key : String} {value : Json} {fields : List (String × Json)}
    {u : List Char} (hwanted : shape.member? key = some wanted)
    (hvalue : readValue fuel depth wanted s = some (value, t)) (ht : skipGap t = ',' :: u)
    (hfields : readFields fuel depth shape u = some (fields, rest)) :
    readFields (fuel + 1) depth shape (renderString key ++ ':' :: s) =
      some ((key, value) :: fields, rest) := by
  rw [renderString, readFields]
  simp [skipGap_cons, isGap, readString_renderString, hwanted, hvalue, ht, hfields]

end Steps

/-! ### Values at the front of a text -/

/-- No digit may stand for a gap. -/
theorem isGap_of_digitValue {c : Char} (hc : (Text.digitValue c).isSome = true) :
    isGap c = false := by
  by_contra hgap
  simp only [isGap, Bool.not_eq_false, Bool.or_eq_true, decide_eq_true_eq] at hgap
  rcases hgap with ((rfl | rfl) | rfl) | rfl <;> exact absurd hc (by decide)

/-- The text of a value that is read back begins with neither a gap nor a closing bracket. -/
theorem exists_spell_eq_cons {depth : Nat} {shape : Shape} {j : Json}
    (h : Readable depth shape j) (sp : Spacing) (level : Nat) :
    ∃ c s, spell sp level j = c :: s ∧ isGap c = false ∧ c ≠ ']' := by
  cases j with
  | null => exact ⟨_, _, rfl, rfl, by decide⟩
  | bool b => cases b <;> exact ⟨_, _, rfl, rfl, by decide⟩
  | int i =>
      obtain ⟨c, s, hs, rfl | hdigit⟩ := exists_renderInt_eq_cons i
      · exact ⟨_, s, hs, rfl, by decide⟩
      · refine ⟨c, s, hs, isGap_of_digitValue hdigit, ?_⟩
        rintro rfl
        exact absurd hdigit (by decide)
  | float bits => exact h.elim
  | string s => exact ⟨_, _, rfl, rfl, by decide⟩
  | array items => cases items <;> exact ⟨_, _, rfl, rfl, by decide⟩
  | object fields => cases fields <;> exact ⟨_, _, rfl, rfl, by decide⟩

/-- What is no part of a number ends one. -/
theorem endsNumber_cons {c : Char} (hc : Text.digitValue c = none ∧ c ∉ ['.', 'e', 'E'])
    (s : List Char) : EndsNumber (c :: s) := by
  rintro _ ⟨⟩
  exact hc

/-- A gap ends a number as well. -/
theorem endsNumber_append {gap s : List Char} (hgap : Blank gap) (hs : EndsNumber s) :
    EndsNumber (gap ++ s) := by
  cases gap with
  | nil => exact hs
  | cons c gap =>
      refine endsNumber_cons ?_ _
      have hc := hgap c List.mem_cons_self
      simp only [isGap, Bool.or_eq_true, decide_eq_true_eq] at hc
      rcases hc with ((rfl | rfl) | rfl) | rfl <;> decide

/-- An integer is read back from the front of a text. -/
theorem readValue_renderInt {fuel depth : Nat} {shape : Shape} {i : Int}
    (hlow : -(UInt64.size / 2 : Nat) ≤ i) (hhigh : i < UInt64.size) {rest : List Char}
    (hrest : EndsNumber rest) :
    readValue (fuel + 1) depth shape (renderInt i ++ rest) = some (.int i, rest) := by
  have hread := readNumber_renderInt hlow hhigh hrest
  obtain ⟨c, s, hs, hc⟩ := exists_renderInt_eq_cons i
  have hgap : isGap c = false := hc.elim (fun hminus => hminus ▸ rfl) isGap_of_digitValue
  have hne : c ∉ ['n', 't', 'f', '"', '[', '{'] := by
    rintro hmem
    simp only [List.mem_cons, List.not_mem_nil, or_false] at hmem
    rcases hmem with rfl | rfl | rfl | rfl | rfl | rfl <;> exact absurd hc (by decide)
  rw [hs, List.cons_append] at hread ⊢
  rw [readValue, skipGap_cons hgap]
  split
  case h_7 => exact hread
  all_goals
    next heq =>
    obtain ⟨rfl, -⟩ := List.cons.inj heq
    exact absurd (by decide) hne

/-! ### Further items and members -/

/-- Further items, the bracket that closes their array, and what follows it. -/
def itemsThen (sp : Spacing) (level : Nat) (items : List Json) (rest : List Char) : List Char :=
  spellItems sp level items ++ (sp.line level ++ ']' :: rest)

/-- Further members, the brace that closes their object, and what follows it. -/
def fieldsThen (sp : Spacing) (level : Nat) (fields : List (String × Json)) (rest : List Char) :
    List Char :=
  spellFields sp level fields ++ (sp.line level ++ '}' :: rest)

section Further

variable {sp : Spacing} {fuel depth level : Nat} {shape wanted : Shape} {s rest : List Char}
  {item value : Json} {items : List Json} {key : String} {fields : List (String × Json)}

/-- A list is its opening bracket and what the items leave behind it. -/
theorem spell_array_append :
    spell sp level (.array (item :: items)) ++ rest =
      '[' :: (itemsThen sp level (item :: items) rest).tail := by
  simp [spell, itemsThen, spellItems]

/-- An object is its opening brace and what the members leave behind it. -/
theorem spell_object_append :
    spell sp level (.object ((key, value) :: fields)) ++ rest =
      '{' :: (fieldsThen sp level ((key, value) :: fields) rest).tail := by
  simp [spell, fieldsThen, spellFields]

/-- Behind a comma or a bracket stand a gap, an item, and what follows that. -/
theorem tail_itemsThen :
    (itemsThen sp level (item :: items) rest).tail =
      sp.line (level + 1) ++ (spell sp (level + 1) item ++ itemsThen sp level items rest) := by
  simp [itemsThen, spellItems]

/-- Behind a comma or a brace stand a gap, a member, and what follows that. -/
theorem tail_fieldsThen :
    (fieldsThen sp level ((key, value) :: fields) rest).tail =
      sp.line (level + 1) ++ (renderString key ++ ':' :: (sp.colon ++
        (spell sp (level + 1) value ++ fieldsThen sp level fields rest))) := by
  simp [fieldsThen, spellFields]

/-- Behind the last item stands the end of the list. -/
theorem skipGap_itemsThen_nil : skipGap (itemsThen sp level [] rest) = ']' :: rest := by
  rw [itemsThen, spellItems, List.nil_append, skipGap_append (sp.blank_line level),
    skipGap_cons rfl]

/-- Behind the last member stands the end of the object. -/
theorem skipGap_fieldsThen_nil : skipGap (fieldsThen sp level [] rest) = '}' :: rest := by
  rw [fieldsThen, spellFields, List.nil_append, skipGap_append (sp.blank_line level),
    skipGap_cons rfl]

/-- Between two items stands a comma. -/
theorem skipGap_itemsThen_cons :
    skipGap (itemsThen sp level (item :: items) rest) =
      ',' :: (itemsThen sp level (item :: items) rest).tail :=
  skipGap_cons rfl _

/-- Between two members stands a comma. -/
theorem skipGap_fieldsThen_cons :
    skipGap (fieldsThen sp level ((key, value) :: fields) rest) =
      ',' :: (fieldsThen sp level ((key, value) :: fields) rest).tail :=
  skipGap_cons rfl _

/-- A number ends where its list goes on or ends. -/
theorem endsNumber_itemsThen : EndsNumber (itemsThen sp level items rest) := by
  cases items with
  | nil =>
      rw [itemsThen, spellItems, List.nil_append]
      exact endsNumber_append (sp.blank_line level) (endsNumber_cons (by decide) _)
  | cons item items => exact endsNumber_cons (by decide) _

/-- A number ends where its object goes on or ends. -/
theorem endsNumber_fieldsThen : EndsNumber (fieldsThen sp level fields rest) := by
  cases fields with
  | nil =>
      rw [fieldsThen, spellFields, List.nil_append]
      exact endsNumber_append (sp.blank_line level) (endsNumber_cons (by decide) _)
  | cons field fields => exact endsNumber_cons (by decide) _

/-- The items of an array are read if the first is, and those that follow it. -/
theorem readItems_tail
    (hitem : readValue fuel depth shape.uncons.1
        (spell sp (level + 1) item ++ itemsThen sp level items rest) =
      some (item, itemsThen sp level items rest))
    (hitems : items ≠ [] →
      readItems fuel depth shape.uncons.2 (itemsThen sp level items rest).tail =
        some (items, rest)) :
    readItems (fuel + 1) depth shape (itemsThen sp level (item :: items) rest).tail =
      some (item :: items, rest) := by
  rw [tail_itemsThen, readItems_append (sp.blank_line _)]
  cases items with
  | nil => exact readItems_last hitem skipGap_itemsThen_nil
  | cons next items => exact readItems_cons hitem skipGap_itemsThen_cons (hitems (by simp))

/-- The members of an object are read if the first is, and those that follow it. -/
theorem readFields_tail (hwanted : shape.member? key = some wanted)
    (hvalue : readValue fuel depth wanted
        (spell sp (level + 1) value ++ fieldsThen sp level fields rest) =
      some (value, fieldsThen sp level fields rest))
    (hfields : fields ≠ [] →
      readFields fuel depth shape (fieldsThen sp level fields rest).tail = some (fields, rest)) :
    readFields (fuel + 1) depth shape (fieldsThen sp level ((key, value) :: fields) rest).tail =
      some ((key, value) :: fields, rest) := by
  rw [← readValue_append sp.blank_colon] at hvalue
  rw [tail_fieldsThen, readFields_append (sp.blank_line _)]
  cases fields with
  | nil => exact readFields_last hwanted hvalue skipGap_fieldsThen_nil
  | cons next fields =>
      exact readFields_cons hwanted hvalue skipGap_fieldsThen_cons (hfields (by simp))

end Further

/-! ### Whole values -/

mutual

/-- A value is read back from the front of a text. -/
theorem readValue_spell (sp : Spacing) (level depth : Nat) (shape : Shape) : (j : Json) →
    Readable depth shape j → ∀ {fuel : Nat} {rest : List Char},
      (spell sp level j).length ≤ fuel → EndsNumber rest →
        readValue (fuel + 1) depth shape (spell sp level j ++ rest) = some (j, rest)
  | .null, _, _, _, _, _ | .bool true, _, _, _, _, _ | .bool false, _, _, _, _, _ => by
      simp [spell, renderScalar, readValue, skipGap_cons, isGap, readWord]
  | .int _, h, _, _, _, hrest => readValue_renderInt h.1 h.2 hrest
  | .float _, h, _, _, _, _ => h.elim
  | .string s, _, _, _, _, _ => by
      simp [spell, renderScalar, renderString, readValue, skipGap_cons, isGap,
        readString_renderString]
  | .array [], h, _, _, _, _ | .object [], h, _, _, _, _ => by
      obtain ⟨depth, rfl⟩ : ∃ d, depth = d + 2 := ⟨depth - 2, by have := h.1; omega⟩
      simp [spell, renderScalar, readValue, skipGap_cons, isGap]
  | .array (item :: items), h, fuel, rest, hfuel, _ => by
      obtain ⟨depth, rfl⟩ : ∃ d, depth = d + 2 := ⟨depth - 2, by have := h.1; omega⟩
      have hlength : (spellItems sp level (item :: items)).length < fuel := by
        simp only [spell, spellItems, List.length_append, List.length_cons] at hfuel ⊢
        omega
      obtain ⟨fuel, rfl⟩ : ∃ f, fuel = f + 1 := ⟨fuel - 1, by omega⟩
      obtain ⟨c, s, hspell, hgap, hclose⟩ := exists_spell_eq_cons h.2.1 sp (level + 1)
      rw [spell_array_append]
      refine readValue_array (fun t ht => hclose ?_)
        (readItems_spell sp level (depth + 1) shape (item :: items) h.2 (by simp) (by omega))
      rw [tail_itemsThen, skipGap_append (sp.blank_line _), hspell, List.cons_append,
        skipGap_cons hgap] at ht
      exact (List.cons.inj ht).1
  | .object ((key, value) :: fields), h, fuel, rest, hfuel, _ => by
      obtain ⟨depth, rfl⟩ : ∃ d, depth = d + 2 := ⟨depth - 2, by have := h.1; omega⟩
      have hlength : (spellFields sp level ((key, value) :: fields)).length < fuel := by
        simp only [spell, spellFields, List.length_append, List.length_cons] at hfuel ⊢
        omega
      obtain ⟨fuel, rfl⟩ : ∃ f, fuel = f + 1 := ⟨fuel - 1, by omega⟩
      rw [spell_object_append]
      refine readValue_object (fun t ht => ?_)
        (readFields_spell sp level (depth + 1) shape ((key, value) :: fields) h.2 (by simp)
          (by omega))
      rw [tail_fieldsThen, skipGap_append (sp.blank_line _), renderString, List.cons_append,
        List.cons_append, skipGap_cons rfl] at ht
      cases ht

/-- The items of an array are read back, up to the bracket that closes it. -/
theorem readItems_spell (sp : Spacing) (level depth : Nat) (shape : Shape) : (items : List Json) →
    ReadableItems depth shape items → ∀ {fuel : Nat} {rest : List Char}, items ≠ [] →
      (spellItems sp level items).length ≤ fuel →
        readItems (fuel + 1) depth shape (itemsThen sp level items rest).tail = some (items, rest)
  | [], _, _, _, hne, _ => absurd rfl hne
  | item :: items, h, fuel, rest, _, hfuel => by
      have hlength : (spell sp (level + 1) item).length + (spellItems sp level items).length <
          fuel := by
        simp only [spellItems, List.length_append, List.length_cons] at hfuel
        omega
      obtain ⟨fuel, rfl⟩ : ∃ f, fuel = f + 1 := ⟨fuel - 1, by omega⟩
      refine readItems_tail ?_ fun hne =>
        readItems_spell sp level depth shape.uncons.2 items h.2 hne (by omega)
      exact readValue_spell sp (level + 1) depth _ item h.1 (by omega) endsNumber_itemsThen

/-- The members of an object are read back, up to the brace that closes it. -/
theorem readFields_spell (sp : Spacing) (level depth : Nat) (shape : Shape) :
    (fields : List (String × Json)) → ReadableFields depth shape fields →
      ∀ {fuel : Nat} {rest : List Char}, fields ≠ [] →
        (spellFields sp level fields).length ≤ fuel →
          readFields (fuel + 1) depth shape (fieldsThen sp level fields rest).tail =
            some (fields, rest)
  | [], _, _, _, hne, _ => absurd rfl hne
  | (key, value) :: fields, h, fuel, rest, _, hfuel => by
      have hlength : (spell sp (level + 1) value).length + (spellFields sp level fields).length <
          fuel := by
        simp only [spellFields, List.length_append, List.length_cons] at hfuel
        omega
      obtain ⟨fuel, rfl⟩ : ∃ f, fuel = f + 1 := ⟨fuel - 1, by omega⟩
      obtain ⟨⟨wanted, hwanted, hreadable⟩, hrest⟩ := h
      refine readFields_tail hwanted ?_ fun hne =>
        readFields_spell sp level depth shape fields hrest hne (by omega)
      exact readValue_spell sp (level + 1) depth wanted value hreadable (by omega)
        endsNumber_fieldsThen

end

/-- A value is the whole value of its text, whatever the gaps in it. -/
theorem parseChars_spell (sp : Spacing) {shape : Shape} {j : Json}
    (h : Readable depthLimit shape j) : parseChars shape (spell sp 0 j) = some j := by
  have hread : readValue ((spell sp 0 j).length + 1) depthLimit shape (spell sp 0 j ++ []) =
      some (j, []) := readValue_spell sp 0 depthLimit shape j h le_rfl (by simp [EndsNumber])
  rw [List.append_nil] at hread
  rw [parseChars, hread]
  rfl

/-- A value is read back from its compact text. -/
theorem parseAs_compact {shape : Shape} {j : Json} (h : Readable depthLimit shape j) :
    parseAs shape j.compact = some j := by
  rw [parseAs, compact, String.toList_ofList, ← spell_compact 0, parseChars_spell _ h]

/-- A value is read back from its indented text. -/
theorem parseAs_pretty {shape : Shape} {j : Json} (h : Readable depthLimit shape j) (step : Nat) :
    parseAs shape (j.pretty step) = some j := by
  rw [parseAs, pretty, String.toList_ofList, ← spell_indented, parseChars_spell _ h]

end ConfigBrowser.Json

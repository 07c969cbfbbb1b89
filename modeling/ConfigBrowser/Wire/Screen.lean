import ConfigBrowser.Screen.Dialog
import ConfigBrowser.Screen.Template
import ConfigBrowser.Screen.Toolbar
import ConfigBrowser.Wire.Read

/-!
# Dialogs and Buttons as JSON

The forms of what the screen shows. Buttons, toolbar states, templates and layouts are written as
their names; the kind of a dialog is told by the member `kind`, and that of a decision by the member
`decision`.
-/

namespace ConfigBrowser

/-- The button of a JSON form. -/
def ToolbarButton.ofJson? (nested : Bool) (j : Json) : Option ToolbarButton :=
  Wire.variant ToolbarButton.all ToolbarButton.name nested j

/-- The state of the toolbar of a JSON form. -/
def ToolbarMode.ofJson? (nested : Bool) (j : Json) : Option ToolbarMode :=
  Wire.variant ToolbarMode.all ToolbarMode.name nested j

/-- The template of a JSON form. -/
def Template.ofJson? (nested : Bool) (j : Json) : Option Template :=
  Wire.variant Template.all Template.name nested j

/-- The layout of a JSON form. -/
def Layout.ofJson? (nested : Bool) (j : Json) : Option Layout :=
  Wire.variant [Layout.default] Layout.name nested j

namespace DialogField

/-- The JSON form of a field. -/
def toJson (f : DialogField) : Json :=
  .object [("id", .string f.id), ("label", .string f.label), ("multiline", .bool f.multiline)]

/-- The keys of a field's members. -/
def keys : List String := ["id", "label", "multiline"]

/-- What is wanted of the text of a field. -/
def shape : Json.Shape := .fields keys

/-- The field of a JSON form. -/
def ofJson? (j : Json) : Option DialogField := do
  let m ← Wire.members keys j
  let id ← Wire.required m "id" Wire.text
  let label ← Wire.required m "label" Wire.text
  let multiline ← Wire.withDefault m "multiline" false Wire.flag
  return ⟨id, label, multiline⟩

end DialogField

namespace DialogSpec

/-- The names of the kinds. -/
def kinds : List String := ["input", "confirm", "error"]

/-- The JSON form of a dialog. -/
def toJson : DialogSpec → Json
  | input title fields confirmLabel =>
    .object [("kind", .string "input"), ("title", .string title),
      ("fields", .ofList DialogField.toJson fields), ("confirm_label", .string confirmLabel)]
  | confirm title message confirmLabel =>
    .object [("kind", .string "confirm"), ("title", .string title), ("message", .string message),
      ("confirm_label", .string confirmLabel)]
  | error message => .object [("kind", .string "error"), ("message", .string message)]

/-- The dialog of a JSON form. -/
def ofJson? (nested : Bool) (j : Json) : Option DialogSpec :=
  match Wire.tagged "kind" kinds nested j with
  | some ("input", rest) => do
    let m ← Wire.members ["title", "fields", "confirm_label"] rest
    let title ← Wire.required m "title" Wire.text
    let fields ← Wire.required m "fields" (Wire.list DialogField.ofJson?)
    let confirmLabel ← Wire.required m "confirm_label" Wire.text
    return input title fields confirmLabel
  | some ("confirm", rest) => do
    let m ← Wire.members ["title", "message", "confirm_label"] rest
    let title ← Wire.required m "title" Wire.text
    let message ← Wire.required m "message" Wire.text
    let confirmLabel ← Wire.required m "confirm_label" Wire.text
    return confirm title message confirmLabel
  | some ("error", rest) => (Wire.single "message" Wire.text rest).map error
  | _ => none

end DialogSpec

namespace DialogDecision

/-- The names of the decisions. -/
def names : List String := ["confirmed", "cancelled"]

/-- The JSON form of a decision. -/
def toJson : DialogDecision → Json
  | confirmed fields =>
    .object [("decision", .string "confirmed"), ("fields", .ofStrings fields)]
  | cancelled => .object [("decision", .string "cancelled")]

/-- The decision of a JSON form. -/
def ofJson? (nested : Bool) (j : Json) : Option DialogDecision :=
  match Wire.tagged "decision" names nested j with
  | some ("confirmed", rest) => do
    let m ← Wire.members ["fields"] rest
    let fields ← Wire.withDefault m "fields" .empty (Wire.map Wire.text)
    return confirmed fields
  | some ("cancelled", rest) => Wire.bare cancelled rest
  | _ => none

end DialogDecision

end ConfigBrowser

/-!
# The Toolbar

The buttons beside the list, and which of them can be pressed. Without a selected entity one can
only create a new one.
-/

namespace ConfigBrowser

/-- A button of the toolbar. -/
inductive ToolbarButton where
  | new
  | up
  | edit
  | delete
  | favorites
deriving DecidableEq, Repr

/-- The state of the toolbar. -/
inductive ToolbarMode where
  | noSelection
  | selectionActive
deriving DecidableEq, Repr

namespace ToolbarButton

/-- The buttons in the order of their display. -/
def all : List ToolbarButton := [new, up, edit, delete, favorites]

/-- The name of a button. -/
def name : ToolbarButton → String
  | new => "new"
  | up => "up"
  | edit => "edit"
  | delete => "delete"
  | favorites => "favorites"

/-- The button with a name. -/
def ofName? (name : String) : Option ToolbarButton := all.find? (·.name = name)

/-- Each button is found by its name. -/
theorem ofName?_name (b : ToolbarButton) : ofName? b.name = some b := by
  cases b <;> decide

end ToolbarButton

namespace ToolbarMode

/-- Both states. -/
def all : List ToolbarMode := [noSelection, selectionActive]

/-- The name of a state. -/
def name : ToolbarMode → String
  | noSelection => "no_selection"
  | selectionActive => "selection_active"

/-- Can the button be pressed? -/
def isEnabled : ToolbarMode → ToolbarButton → Bool
  | noSelection, button => button = .new
  | selectionActive, _ => true

/-- Every button with whether it can be pressed. -/
def buttons (mode : ToolbarMode) : List (ToolbarButton × Bool) :=
  ToolbarButton.all.map fun button => (button, mode.isEnabled button)

end ToolbarMode

end ConfigBrowser

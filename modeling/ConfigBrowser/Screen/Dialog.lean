import ConfigBrowser.SortedMap

/-!
# Dialogs

What a dialog shows and how a person answers it. There are two dialogs that ask for a decision, one
to create an entity and one to delete it; a third kind reports a failure and waits for nothing.
-/

namespace ConfigBrowser

/-- A field of an input dialog. -/
structure DialogField where
  id : String
  label : String
  /-- Does the field take several lines? -/
  multiline : Bool
deriving DecidableEq, Repr

/-- What a dialog shows. -/
inductive DialogSpec where
  /-- Asks for the values of fields. -/
  | input (title : String) (fields : List DialogField) (confirmLabel : String)
  /-- Asks whether to go on. -/
  | confirm (title message confirmLabel : String)
  /-- Reports a failure. -/
  | error (message : String)
deriving DecidableEq, Repr

namespace DialogSpec

/-- The dialog that creates an entity. -/
def create : DialogSpec :=
  .input "Add configuration" [⟨"name", "Name", false⟩, ⟨"xml", "XML", true⟩] "Ok"

/-- The dialog that deletes an entity. -/
def delete : DialogSpec :=
  .confirm "Delete configuration?"
    "Are you sure you want to permanently delete this configuration?" "Delete"

/-- Does the dialog report a failure? -/
def isError : DialogSpec → Bool
  | error _ => true
  | _ => false

end DialogSpec

/-- The answer to a dialog. -/
inductive DialogDecision where
  /-- The dialog is confirmed, with the values of its fields. -/
  | confirmed (fields : SortedMap String String)
  | cancelled
deriving DecidableEq, Repr

end ConfigBrowser

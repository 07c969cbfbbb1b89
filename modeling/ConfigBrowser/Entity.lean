import ConfigBrowser.Json.Basic

/-!
# Entities

The configuration documents of the remote store. Their payload is any JSON value; the browser
shows it and never looks into it.
-/

namespace ConfigBrowser

/-- A configuration document. -/
structure Entity where
  id : String
  /-- The type of the document. -/
  kind : String
  name : String
  /-- The payload. -/
  data : Json
deriving DecidableEq, Repr

/-- A row of the list: a document without its payload. -/
structure EntitySummary where
  id : String
  /-- The type of the document. -/
  kind : String
  name : String
deriving DecidableEq, Repr

/-- The row that stands for an entity. -/
def Entity.summary (e : Entity) : EntitySummary := ⟨e.id, e.kind, e.name⟩

end ConfigBrowser

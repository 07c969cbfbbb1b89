import ConfigBrowser.Entity
import ConfigBrowser.Wire.Read

/-!
# Entities as JSON

An entity is a record whose payload may be left out; a row of the list is the same record without
a payload.

## Main results

* `Entity.ofJson?_toJson`: an entity with a canonical payload is read back as it was.
-/

namespace ConfigBrowser

namespace Entity

/-- The JSON form of an entity. -/
def toJson (e : Entity) : Json :=
  .object [("id", .string e.id), ("type", .string e.kind), ("name", .string e.name),
    ("data", e.data)]

/-- The keys of an entity's members. -/
def keys : List String := ["id", "type", "name", "data"]

/-- What is wanted of the text of an entity. -/
def shape : Json.Shape := .fields keys

/-- The entity of a JSON form. -/
def ofJson? (j : Json) : Option Entity := do
  let m ← Wire.members keys j
  let id ← Wire.required m "id" Wire.text
  let kind ← Wire.required m "type" Wire.text
  let name ← Wire.required m "name" Wire.text
  let data ← Wire.withDefault m "data" .null Wire.payload
  return ⟨id, kind, name, data⟩

/-- An entity with canonical data is read back from its form. -/
theorem ofJson?_toJson {e : Entity} (h : e.data.canonical = e.data) :
    ofJson? e.toJson = some e := by
  obtain ⟨id, kind, name, data⟩ := e
  simp only at h
  simp [ofJson?, toJson, keys, Wire.members, Wire.hasRepeatedKey, Wire.required, Wire.withDefault,
    Wire.text, Wire.payload, List.lookup_cons, h]

end Entity

namespace EntitySummary

/-- The JSON form of a row. -/
def toJson (e : EntitySummary) : Json :=
  .object [("id", .string e.id), ("type", .string e.kind), ("name", .string e.name)]

/-- The keys of a row's members. -/
def keys : List String := ["id", "type", "name"]

/-- What is wanted of the text of a row. -/
def shape : Json.Shape := .fields keys

/-- The row of a JSON form. -/
def ofJson? (j : Json) : Option EntitySummary := do
  let m ← Wire.members keys j
  let id ← Wire.required m "id" Wire.text
  let kind ← Wire.required m "type" Wire.text
  let name ← Wire.required m "name" Wire.text
  return ⟨id, kind, name⟩

end EntitySummary

end ConfigBrowser

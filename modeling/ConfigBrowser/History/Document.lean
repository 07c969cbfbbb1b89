import ConfigBrowser.History.Entry
import ConfigBrowser.Json.Writer
import ConfigBrowser.Wire.Read

/-!
# The History Document

What a history file holds: a version number and the lists by their keys. Its text is JSON, indented
by two blanks. A document without lists may leave them out; the version has to be there.
-/

namespace ConfigBrowser

/-- The contents of a history file. -/
structure HistoryDocument where
  version : Nat
  lists : SortedMap String (List HistoryEntry)
deriving DecidableEq, Repr

/-- The JSON form of an entry. -/
def HistoryEntry.toJson (e : HistoryEntry) : Json :=
  .object [("name", .string e.name), ("value", .string e.value), ("visited_at", .int e.visitedAt)]

/-- The keys of an entry's members. -/
def HistoryEntry.keys : List String := ["name", "value", "visited_at"]

/-- What is wanted of the text of an entry. -/
def HistoryEntry.shape : Json.Shape := .fields HistoryEntry.keys

/-- The entry of a JSON form. -/
def HistoryEntry.ofJson? (j : Json) : Option HistoryEntry := do
  let m ← Wire.members HistoryEntry.keys j
  let name ← Wire.required m "name" Wire.text
  let value ← Wire.required m "value" Wire.text
  let visitedAt ←
    Wire.required m "visited_at" (Wire.integer Int64.minValue.toInt Int64.maxValue.toInt)
  return ⟨name, value, visitedAt⟩

namespace HistoryDocument

/-- The document of a new history. -/
def initial : HistoryDocument := ⟨1, .empty⟩

/-- The JSON form of a document. -/
def toJson (d : HistoryDocument) : Json :=
  let lists := d.lists.entries.map fun (key, list) => (key, Json.ofList HistoryEntry.toJson list)
  .object [("version", .ofNat d.version), ("lists", .object lists)]

/-- The document of a JSON form. -/
def ofJson? (j : Json) : Option HistoryDocument := do
  let m ← Wire.members ["version", "lists"] j
  let version ← Wire.required m "version" (Wire.count UInt32.size)
  let lists ← Wire.withDefault m "lists" .empty (Wire.map (Wire.list HistoryEntry.ofJson?))
  return ⟨version, lists⟩

/-- The text of a document. -/
def text (d : HistoryDocument) : String := d.toJson.pretty 2

/-- What is wanted of the text of a document. -/
def shape : Json.Shape :=
  .record [("version", .whole), ("lists", .map (.list HistoryEntry.shape))]

/-- The document of a text. -/
def ofText? (s : String) : Option HistoryDocument := Wire.parse shape ofJson? s

end HistoryDocument

end ConfigBrowser

import ConfigBrowser.Json.Writer
import ConfigBrowser.Text.Quoted
import ConfigBrowser.Wire.Store

/-!
# Reply Envelopes

A store that is reached over HTTP wraps its replies in envelopes: an error flag with a message, the
id of a created entity, and data. What an envelope means depends on the request that it answers.
Data that do not have the form of an entity, or of a list of rows, make an error reply that says
what is wrong with them; of several faults it names the first.

## Main results

* `Envelope.reply_of_error`: an error flag outweighs all else.
-/

namespace ConfigBrowser

/-- What is wrong with data. -/
inductive Malformed where
  /-- A value is not of the type expected. -/
  | wrongType (found : Json) (expected : String)
  | missingField (name : String)
  /-- An array has too few items for a record. -/
  | tooShort (length : Nat) (expected : String)
  /-- An array has too many items for a record. -/
  | tooLong (length : Nat)
deriving DecidableEq, Repr

namespace Malformed

/-- A value as the messages about it name it. -/
def name : Json → String
  | .null => "null"
  | .bool b => "boolean `" ++ String.ofList (Json.renderScalar (.bool b)) ++ "`"
  | .int i => "integer `" ++ String.ofList (Json.renderScalar (.int i)) ++ "`"
  | .float bits => "floating point `" ++ String.ofList (Json.renderScalar (.float bits)) ++ "`"
  | .string s => "string " ++ Text.quoted s
  | .array _ => "sequence"
  | .object _ => "map"

/-- The fault in words. -/
def message : Malformed → String
  | wrongType found expected => "invalid type: " ++ name found ++ ", expected " ++ expected
  | missingField field => "missing field `" ++ field ++ "`"
  | tooShort length expected =>
    "invalid length " ++ toString length ++ ", expected " ++ expected
  | tooLong length =>
    "invalid length " ++ toString length ++ ", expected fewer elements in array"

end Malformed

namespace Envelope

/-! ### Data -/

/-- A string. -/
def readText : Json → Except Malformed String
  | .string s => .ok s
  | j => .error (.wrongType j "a string")

/-- Checks that all values are strings. -/
def checkTexts : List Json → Except Malformed Unit
  | [] => .ok ()
  | j :: rest => (readText j).bind fun _ => checkTexts rest

/-- A member that has to be there. -/
def readField (fields : List (String × Json)) (key : String) : Except Malformed String :=
  match fields.lookup key with
  | some j => readText j
  | none => .error (.missingField key)

/-- The row that members tell of. Members of the wrong type are found before missing ones. -/
def rowOfFields (fields : List (String × Json)) : Except Malformed EntitySummary := do
  checkTexts ((fields.filter fun e => ["id", "type", "name"].contains e.1).map (·.2))
  let id ← readField fields "id"
  let kind ← readField fields "type"
  let name ← readField fields "name"
  return ⟨id, kind, name⟩

/-- The row at the front of the items of a record with a title and a number of fields. -/
def rowOfItems (title : String) (size : Nat) (items : List Json) :
    Except Malformed EntitySummary := do
  checkTexts (items.take 3)
  match items with
  | .string id :: .string kind :: .string name :: _ =>
    if size < items.length then .error (.tooLong items.length) else return ⟨id, kind, name⟩
  | _ => .error (.tooShort items.length (title ++ " with " ++ toString size ++ " elements"))

/-- The row of a JSON form. -/
def readRow : Json → Except Malformed EntitySummary
  | .object fields => rowOfFields fields
  | .array items => rowOfItems "struct EntitySummary" 3 items
  | j => .error (.wrongType j "struct EntitySummary")

/-- The rows of a JSON form. -/
def readRows : List Json → Except Malformed (List EntitySummary)
  | [] => .ok []
  | j :: rest => do
    let row ← readRow j
    let rows ← readRows rest
    return row :: rows

/-- The list of a JSON form. -/
def readListing : Json → Except Malformed (List EntitySummary)
  | .array items => readRows items
  | j => .error (.wrongType j "a sequence")

/-- An entity with the payload that a record may lack. -/
def entityOf (row : EntitySummary) (data : Option Json) : Entity :=
  ⟨row.id, row.kind, row.name, data.getD .null⟩

/-- The entity of a JSON form. -/
def readEntity : Json → Except Malformed Entity
  | .object fields => (rowOfFields fields).map (entityOf · (fields.lookup "data"))
  | .array items => (rowOfItems "struct Entity" 4 items).map (entityOf · items[3]?)
  | j => .error (.wrongType j "struct Entity")

end Envelope

/-! ### Envelopes -/

/-- An envelope. -/
structure Envelope where
  /-- Did the request fail? -/
  error : Bool
  message : Option String
  /-- The id of a created entity, in any form. -/
  id : Option Json
  data : Option Json
deriving DecidableEq, Repr

namespace Envelope

/-- The JSON form of an envelope. -/
def toJson (e : Envelope) : Json :=
  .object [("error", .bool e.error), ("message", .ofOption Json.string e.message),
    ("meta", .object [("id", e.id.getD .null)]), ("data", e.data.getD .null)]

/-- A value that may be `null`. -/
def readValue (j : Json) : Option (Option Json) := Wire.nullable Wire.payload j

/-- What is wanted of the text of an envelope. -/
def shape : Json.Shape :=
  .record [("error", .whole), ("message", .whole), ("meta", .fields ["id"]), ("data", .whole)]

/-- The id in the metadata of a reply. -/
def readMeta (j : Json) : Option (Option Json) := do
  let m ← Wire.members ["id"] j
  Wire.withDefault m "id" none readValue

/-- The envelope of a JSON form. -/
def ofJson? (j : Json) : Option Envelope := do
  let m ← Wire.members ["error", "message", "meta", "data"] j
  let error ← Wire.withDefault m "error" false Wire.flag
  let message ← Wire.withDefault m "message" none (Wire.nullable Wire.text)
  let id ← Wire.withDefault m "meta" none readMeta
  let data ← Wire.withDefault m "data" none readValue
  return ⟨error, message, id, data⟩

/-- The envelope of a text. -/
def ofText? (s : String) : Option Envelope := Wire.parse shape ofJson? s

/-- The id of a created entity: a string, or a number by its text. -/
def createdId (e : Envelope) : Option String :=
  match e.id with
  | some (.string id) => some id
  | some (.int i) => some (Json.int i).compact
  | some (.float bits) => some (Json.float bits).compact
  | _ => none

/-- The reply that an envelope is to a request. -/
def reply (e : Envelope) (request : StoreRequest) : StoreReply :=
  if e.error then .error (e.message.getD "request failed")
  else
    match request with
    | .get _ =>
      match e.data.map readEntity with
      | none => .error "reply has no data"
      | some (.ok entity) => .entity entity
      | some (.error fault) => .error ("malformed entity: " ++ fault.message)
    | .put .. => e.createdId.elim (.error "reply has no id") .created
    | .delete _ => .deleted
    | .search _ =>
      match e.data.map readListing with
      | none => .listing []
      | some (.ok rows) => .listing rows
      | some (.error fault) => .error ("malformed listing: " ++ fault.message)

/-- An envelope of an error answers any request with its message. -/
theorem reply_of_error {e : Envelope} (h : e.error) (request : StoreRequest) :
    e.reply request = .error (e.message.getD "request failed") := by
  simp [reply, h]

end Envelope

end ConfigBrowser

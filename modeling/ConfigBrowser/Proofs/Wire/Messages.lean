import ConfigBrowser.Proofs.Wire.Records
import ConfigBrowser.Wire.Route
import ConfigBrowser.Wire.Screen
import ConfigBrowser.Wire.Store
import Mathlib

/-!
# Reading back Messages and Dialogs

Tickets have 64 bits and the width of a column has 32. Requests, replies, dialogs and the decisions
on them that keep to these sizes are read back from their JSON forms. Apart from the payload of an
entity, none of the forms nests deep.

## Main results

* `StoreRequest.ofJson?_toJson`, `StoreReply.ofJson?_toJson`: messages are read back.
* `StoreReply.readable_toJson_iff`: a reply leaves less room for its payload.
-/

namespace ConfigBrowser

open Json (readable_object_iff readable_ofNat readable_ofList readable_ofStrings)

/-! ### Requests -/

namespace Ticket

/-- Does the ticket have 64 bits? -/
def WellSized (t : Ticket) : Prop := t.number < Wire.wordBound

/-- A ticket of 64 bits is read back from its form. -/
theorem ofJson?_toJson {t : Ticket} (ht : t.WellSized) : ofJson? t.toJson = some t := by
  rw [ofJson?, toJson, Wire.count_eq_some_iff.2 ⟨rfl, ht⟩]
  rfl

/-- The form of a ticket is a number, which nests nowhere. -/
theorem readable_toJson {t : Ticket} (ht : t.WellSized) (depth : Nat) :
    Json.Readable depth .whole t.toJson :=
  readable_ofNat ht

end Ticket

namespace ColumnFilter

/-- A filter of a column is read back from its form. -/
theorem ofJson?_toJson (nested : Bool) (f : ColumnFilter) : ofJson? nested f.toJson = some f := by
  cases f with
  | input => rw [ofJson?, toJson, Wire.tagged_object (by simp)]; rfl
  | select options =>
      have hoptions : Wire.list Wire.text (.ofList Json.string options) = some options :=
        Wire.list_ofList fun _ _ => rfl
      rw [ofJson?, toJson, Wire.tagged_object (by simp)]
      simp only [Wire.single_object, hoptions, Option.map_some]

/-- The form of a filter nests three levels deep. -/
theorem readable_toJson (f : ColumnFilter) (depth : Nat) :
    Json.Readable (depth + 3) .whole f.toJson := by
  cases f with
  | input => simp [toJson, readable_object_iff]
  | select options =>
      have hoptions : Json.Readable (depth + 2) .whole (.ofList Json.string options) :=
        readable_ofList fun _ _ => trivial
      simp [toJson, readable_object_iff, hoptions]

end ColumnFilter

namespace Column

/-- Does the width of the column have 32 bits? -/
def WellSized (c : Column) : Prop := c.width < widthBound

/-- A column of a proper width is read back from its form. -/
theorem ofJson?_toJson (nested : Bool) {c : Column} (hc : c.WellSized) :
    ofJson? nested c.toJson = some c := by
  have hwidth := Wire.count_eq_some_iff.2 ⟨rfl, hc⟩
  rw [ofJson?, toJson, Wire.members_object (by simp [keys]) (by simp)]
  simp [Wire.required, Wire.withDefault, Wire.text, Wire.flag, List.lookup_cons, hwidth,
    ColumnFilter.ofJson?_toJson]

/-- The form of a column nests one level deeper than that of its filter. -/
theorem readable_toJson {c : Column} (hc : c.WellSized) (depth : Nat) :
    Json.Readable (depth + 4) .whole c.toJson := by
  have hwidth : Json.Readable (depth + 3) .whole (.ofNat c.width) :=
    readable_ofNat (hc.trans (by decide))
  simp [toJson, readable_object_iff, hwidth, c.filter.readable_toJson]

end Column

namespace SearchQuery

/-- Do the columns of the query keep to their sizes? -/
def WellSized (q : SearchQuery) : Prop := ∀ c ∈ q.columns, c.WellSized

/-- A query is read back from its form if its columns are. -/
theorem ofJson?_toJson (nested : Bool) {q : SearchQuery} (hq : q.WellSized) :
    ofJson? nested q.toJson = some q := by
  obtain ⟨pageType, name, kind, filter, columns⟩ := q
  have hcolumns : Wire.list (Column.ofJson? nested) (.ofList Column.toJson columns) =
      some columns := Wire.list_ofList fun c hc => Column.ofJson?_toJson nested (hq c hc)
  cases name <;> cases kind <;>
  · rw [ofJson?, toJson, Wire.members_object (by simp [keys, Wire.given])
      (by simp [Wire.given])]
    simp [Wire.given, Wire.required, Wire.optional, Wire.nullable, Wire.text, Wire.flag,
      List.lookup_cons, hcolumns]

/-- The form of a query nests two levels deeper than those of its columns. -/
theorem readable_toJson {q : SearchQuery} (hq : q.WellSized) (depth : Nat) :
    Json.Readable (depth + 6) .whole q.toJson := by
  have hcolumns : Json.Readable (depth + 5) .whole (.ofList Column.toJson q.columns) :=
    readable_ofList fun c hc => Column.readable_toJson (hq c hc) depth
  cases hname : q.name <;> cases hkind : q.kind <;>
    simp [toJson, hname, hkind, Wire.given, readable_object_iff, hcolumns]

end SearchQuery

namespace StoreRequest

/-- Does the query of a request keep to its sizes? -/
def WellSized : StoreRequest → Prop
  | search query => query.WellSized
  | _ => True

/-- A request is read back from its form. -/
theorem ofJson?_toJson (nested : Bool) {r : StoreRequest} (hr : r.WellSized) :
    ofJson? nested r.toJson = some r := by
  cases r with
  | get id | delete id =>
      rw [ofJson?, toJson, Wire.tagged_object (by simp)]
      simp only [Wire.single_object, Wire.text, Option.map_some]
  | put name payload =>
      rw [ofJson?, toJson, Wire.tagged_object (by simp)]
      simp [Wire.members_object, Wire.required, Wire.text, List.lookup_cons]
  | search query =>
      rw [ofJson?, toJson, Wire.tagged_object (by simp)]
      simp only [Wire.single_object, SearchQuery.ofJson?_toJson true hr, Option.map_some]

/-- The form of a request nests one level deeper than that of its query. -/
theorem readable_toJson {r : StoreRequest} (hr : r.WellSized) (depth : Nat) :
    Json.Readable (depth + 7) .whole r.toJson := by
  cases r with
  | search query => simp [toJson, readable_object_iff, query.readable_toJson hr]
  | _ => simp [toJson, readable_object_iff]

end StoreRequest

/-! ### Replies -/

namespace EntitySummary

/-- A row is read back from its form. -/
theorem ofJson?_toJson (e : EntitySummary) : ofJson? e.toJson = some e := by
  rw [ofJson?, toJson, Wire.members_object (by simp [keys]) (by simp)]
  simp [Wire.required, Wire.text, List.lookup_cons]

/-- The form of a row nests two levels deep. -/
theorem readable_toJson (e : EntitySummary) (depth : Nat) :
    Json.Readable (depth + 2) .whole e.toJson := by
  simp [toJson, readable_object_iff]

/-- Rows are read back as a list. -/
theorem list_toJson (rows : List EntitySummary) :
    Wire.list ofJson? (.ofList toJson rows) = some rows :=
  Wire.list_ofList fun e _ => e.ofJson?_toJson

/-- The form of a list of rows nests one level deeper than those of the rows. -/
theorem readable_list (rows : List EntitySummary) (depth : Nat) :
    Json.Readable (depth + 3) .whole (.ofList toJson rows) :=
  readable_ofList fun e _ => e.readable_toJson depth

end EntitySummary

namespace StoreReply

/-- The payload that a reply carries, `null` if it carries none. -/
def payload : StoreReply → Json
  | entity e => e.data
  | _ => .null

/-- A reply is read back from its form if its payload is in order. -/
theorem ofJson?_toJson (nested : Bool) {r : StoreReply} (hr : r.payload.canonical = r.payload) :
    ofJson? nested r.toJson = some r := by
  cases r with
  | entity e =>
      rw [ofJson?, toJson, Wire.tagged_object (by simp)]
      simp only [Wire.single_object, Entity.ofJson?_toJson hr, Option.map_some]
  | created id | error id =>
      rw [ofJson?, toJson, Wire.tagged_object (by simp)]
      simp only [Wire.single_object, Wire.text, Option.map_some]
  | deleted => rw [ofJson?, toJson, Wire.tagged_object (by simp)]; rfl
  | listing rows =>
      rw [ofJson?, toJson, Wire.tagged_object (by simp)]
      simp only [Wire.single_object, EntitySummary.list_toJson, Option.map_some]

/-- The payload of a reply stands two objects deep. -/
theorem readable_toJson_iff (r : StoreReply) {depth : Nat} (hdepth : 2 ≤ depth) :
    Json.Readable (depth + 2) .whole r.toJson ↔ Json.Readable depth .whole r.payload := by
  obtain ⟨depth, rfl⟩ : ∃ d, depth = d + 2 := ⟨depth - 2, by omega⟩
  cases r with
  | entity e => simp [toJson, payload, Entity.toJson, readable_object_iff]
  | listing rows =>
      simp [toJson, payload, readable_object_iff,
        EntitySummary.readable_list rows depth]
  | _ => simp [toJson, payload, readable_object_iff]

end StoreReply

/-! ### Dialogs -/

namespace DialogField

/-- A field of a dialog is read back from its form. -/
theorem ofJson?_toJson (f : DialogField) : ofJson? f.toJson = some f := by
  rw [ofJson?, toJson, Wire.members_object (by simp [keys]) (by simp)]
  simp [Wire.required, Wire.withDefault, Wire.text, Wire.flag, List.lookup_cons]

/-- The form of a field nests two levels deep. -/
theorem readable_toJson (f : DialogField) (depth : Nat) :
    Json.Readable (depth + 2) .whole f.toJson := by
  simp [toJson, readable_object_iff]

end DialogField

namespace DialogSpec

/-- A dialog is read back from its form. -/
theorem ofJson?_toJson (nested : Bool) (d : DialogSpec) : ofJson? nested d.toJson = some d := by
  cases d with
  | input title fields confirmLabel =>
      have hfields : Wire.list DialogField.ofJson? (.ofList DialogField.toJson fields) =
          some fields := Wire.list_ofList fun f _ => f.ofJson?_toJson
      rw [ofJson?, toJson, Wire.tagged_object (by simp)]
      simp [Wire.members_object, Wire.required, Wire.text, List.lookup_cons, hfields]
  | confirm title message confirmLabel =>
      rw [ofJson?, toJson, Wire.tagged_object (by simp)]
      simp [Wire.members_object, Wire.required, Wire.text, List.lookup_cons]
  | error message =>
      rw [ofJson?, toJson, Wire.tagged_object (by simp)]
      simp only [Wire.single_object, Wire.text, Option.map_some]

/-- The form of a dialog nests two levels deeper than those of its fields. -/
theorem readable_toJson (d : DialogSpec) (depth : Nat) :
    Json.Readable (depth + 4) .whole d.toJson := by
  cases d with
  | input title fields confirmLabel =>
      have hfields : Json.Readable (depth + 3) .whole (.ofList DialogField.toJson fields) :=
        readable_ofList fun f _ => f.readable_toJson depth
      simp [toJson, readable_object_iff, hfields]
  | _ => simp [toJson, readable_object_iff]

end DialogSpec

namespace DialogDecision

/-- A decision is read back from its form. -/
theorem ofJson?_toJson (nested : Bool) (d : DialogDecision) :
    ofJson? nested d.toJson = some d := by
  cases d with
  | confirmed fields =>
      have hfields : Wire.map Wire.text (.ofStrings fields) = some fields :=
        RouteArgs.ofJson?_toJson fields
      rw [ofJson?, toJson, Wire.tagged_object (by simp)]
      simp [Wire.members_object, Wire.withDefault, hfields]
  | cancelled => rw [ofJson?, toJson, Wire.tagged_object (by simp)]; rfl

/-- The form of a decision nests one level deeper than its fields. -/
theorem readable_toJson (d : DialogDecision) (depth : Nat) :
    Json.Readable (depth + 3) .whole d.toJson := by
  cases d with
  | confirmed fields =>
      simp [toJson, readable_object_iff, readable_ofStrings fields]
  | cancelled => simp [toJson, readable_object_iff]

end DialogDecision

end ConfigBrowser

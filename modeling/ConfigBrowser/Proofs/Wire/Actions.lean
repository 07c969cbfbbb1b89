import ConfigBrowser.Proofs.Wire.Messages
import ConfigBrowser.Wire.Action
import ConfigBrowser.Wire.Event
import Mathlib

/-!
# Reading back Events and Actions

Every event and action, and every request and reply on its own, is read back from its JSON text. The
one thing that can keep it from being read is a payload that nests so deep that, together with the
objects it stands in, it reaches the depth limit of the reader.

## Main results

* `Event.ofJson?_toJson`, `Action.ofJson?_toJson`: events and actions are read back from their JSON
  forms.
* `Wire.parse_compact_messages`: which texts of events, actions, requests and replies are read back.
* `Wire.parse_compact_render_of_deep`: a payload too deep to be read.
-/

namespace ConfigBrowser

open Json (readable_object_iff readable_ofNat)

/-! ### What the screen shows -/

/-- A button is read back from its name. -/
theorem ToolbarButton.ofJson?_name (nested : Bool) (b : ToolbarButton) :
    ofJson? nested (.string b.name) = some b := by
  cases b <;> rfl

/-- A mode of the toolbar is read back from its name. -/
theorem ToolbarMode.ofJson?_name (nested : Bool) (m : ToolbarMode) :
    ofJson? nested (.string m.name) = some m := by
  cases m <;> rfl

/-- A template is read back from its name. -/
theorem Template.ofJson?_name (nested : Bool) (t : Template) :
    ofJson? nested (.string t.name) = some t := by
  cases t <;> rfl

/-- A layout is read back from its name. -/
theorem Layout.ofJson?_name (nested : Bool) (l : Layout) :
    ofJson? nested (.string l.name) = some l := by
  cases l
  rfl

/-! ### Events -/

namespace Event

/-- The payload that an event carries, `null` if it carries none. -/
def payload : Event → Json
  | storeReplied _ reply => reply.payload
  | _ => .null

/-- Do the tickets of an event keep to their size? -/
def WellSized : Event → Prop
  | storeReplied ticket _ | dialogResolved ticket _ | timerFired ticket => ticket.WellSized
  | _ => True

/-- Could a program hold the event? Its tickets keep to their size, and its payload is canonical. -/
structure WellFormed (e : Event) : Prop where
  sized : e.WellSized
  canonical : e.payload.canonical = e.payload

/-- An event is read back from its form. -/
theorem ofJson?_toJson {e : Event} (he : e.WellFormed) : ofJson? e.toJson = some e := by
  obtain ⟨hsized, hpayload⟩ := he
  cases e with
  | routeChanged path =>
      rw [ofJson?, toJson, Wire.tagged_object (by simp)]
      simp only [Wire.single_object, Wire.text, Option.map_some]
  | storeReplied ticket reply =>
      rw [ofJson?, toJson, Wire.tagged_object (by simp)]
      simp [Wire.members_object, Wire.required, List.lookup_cons, Ticket.ofJson?_toJson hsized,
        StoreReply.ofJson?_toJson true hpayload]
  | dialogResolved dialog decision =>
      rw [ofJson?, toJson, Wire.tagged_object (by simp)]
      simp [Wire.members_object, Wire.required, List.lookup_cons, Ticket.ofJson?_toJson hsized,
        decision.ofJson?_toJson]
  | timerFired timer =>
      rw [ofJson?, toJson, Wire.tagged_object (by simp)]
      simp only [Wire.single_object, Ticket.ofJson?_toJson hsized, Option.map_some]
  | toolbarPressed button =>
      rw [ofJson?, toJson, Wire.tagged_object (by simp)]
      simp only [Wire.single_object, button.ofJson?_name, Option.map_some]
  | editRequested | sessionReset => rw [ofJson?, toJson, Wire.tagged_object (by simp)]; rfl

/-- The payload of an event stands three objects deep. -/
theorem readable_toJson_iff {e : Event} (he : e.WellSized) {depth : Nat} (hdepth : 7 ≤ depth) :
    Json.Readable (depth + 3) .whole e.toJson ↔ Json.Readable depth .whole e.payload := by
  obtain ⟨depth, rfl⟩ : ∃ d, depth = d + 7 := ⟨depth - 7, by omega⟩
  cases e with
  | storeReplied ticket reply =>
      simp [toJson, payload, readable_object_iff, Ticket.readable_toJson he,
        reply.readable_toJson_iff]
  | dialogResolved dialog decision =>
      simp [toJson, payload, readable_object_iff, Ticket.readable_toJson he,
        decision.readable_toJson]
  | timerFired timer =>
      simp [toJson, payload, readable_object_iff, Ticket.readable_toJson he]
  | _ => simp [toJson, payload, readable_object_iff]

end Event

/-! ### Actions -/

namespace Action

/-- The payload that an action carries, `null` if it carries none. -/
def payload : Action → Json
  | render _ data => data
  | _ => .null

/-- Do the numbers of an action keep to their sizes? -/
def WellSized : Action → Prop
  | store ticket request => ticket.WellSized ∧ request.WellSized
  | scheduleTimer timer delay => timer.WellSized ∧ delay < Wire.wordBound
  | cancelTimer ticket | openDialog ticket _ | closeDialog ticket | showDialogError ticket _ =>
    ticket.WellSized
  | _ => True

/-- Could a program hold the action? Its numbers keep to their sizes, and its payload is
canonical. -/
structure WellFormed (a : Action) : Prop where
  sized : a.WellSized
  canonical : a.payload.canonical = a.payload

/-- An action is read back from its form. -/
theorem ofJson?_toJson {a : Action} (ha : a.WellFormed) : ofJson? a.toJson = some a := by
  obtain ⟨hsized, hpayload⟩ := ha
  rw [ofJson?, toJson]
  cases a with
  | navigate text | setTab text | showMessage text | showError text =>
      rw [kind, fields, Wire.tagged_object (by simp)]
      simp only [Wire.single_object, Wire.text, Option.map_some]
  | store ticket request =>
      rw [kind, fields, Wire.tagged_object (by simp)]
      simp [Wire.members_object, Wire.required, List.lookup_cons, Ticket.ofJson?_toJson hsized.1,
        StoreRequest.ofJson?_toJson true hsized.2]
  | setLayout layout =>
      rw [kind, fields, Wire.tagged_object (by simp)]
      simp only [Wire.single_object, layout.ofJson?_name, Option.map_some]
  | setToolbar mode =>
      rw [kind, fields, Wire.tagged_object (by simp)]
      simp only [Wire.single_object, mode.ofJson?_name, Option.map_some]
  | render template data =>
      have hdata : Wire.payload data = some data := congrArg some hpayload
      rw [kind, fields, Wire.tagged_object (by simp)]
      simp [Wire.members_object, Wire.required, List.lookup_cons, template.ofJson?_name, hdata]
  | replaceList rows =>
      rw [kind, fields, Wire.tagged_object (by simp)]
      simp only [Wire.single_object, EntitySummary.list_toJson, Option.map_some]
  | syncListFilter name type =>
      cases name <;> cases type <;>
      · rw [kind, fields, Wire.tagged_object (by simp [Wire.given])]
        simp [Wire.given, Wire.members_object, Wire.optional, Wire.nullable, Wire.text,
          List.lookup_cons]
  | clearMessage | enableEditAffordance =>
      rw [kind, fields, Wire.tagged_object (by simp)]
      rfl
  | scheduleTimer timer delay =>
      have hdelay := Wire.count_eq_some_iff.2 ⟨rfl, hsized.2⟩
      rw [kind, fields, Wire.tagged_object (by simp)]
      simp [Wire.members_object, Wire.required, List.lookup_cons, Ticket.ofJson?_toJson hsized.1,
        hdelay]
  | cancelTimer ticket | closeDialog ticket =>
      rw [kind, fields, Wire.tagged_object (by simp)]
      simp only [Wire.single_object, Ticket.ofJson?_toJson hsized, Option.map_some]
  | favoriteChanged favorited =>
      rw [kind, fields, Wire.tagged_object (by simp)]
      simp only [Wire.single_object, Wire.flag, Option.map_some]
  | openDialog dialog spec =>
      rw [kind, fields, Wire.tagged_object (by simp)]
      simp [Wire.members_object, Wire.required, List.lookup_cons, Ticket.ofJson?_toJson hsized,
        spec.ofJson?_toJson]
  | showDialogError dialog message =>
      rw [kind, fields, Wire.tagged_object (by simp)]
      simp [Wire.members_object, Wire.required, Wire.text, List.lookup_cons,
        Ticket.ofJson?_toJson hsized]

/-- The payload of an action stands in one object. -/
theorem readable_toJson_iff {a : Action} (ha : a.WellSized) {depth : Nat} (hdepth : 7 ≤ depth) :
    Json.Readable (depth + 1) .whole a.toJson ↔ Json.Readable depth .whole a.payload := by
  obtain ⟨depth, rfl⟩ : ∃ d, depth = d + 7 := ⟨depth - 7, by omega⟩
  cases a with
  | store ticket request =>
      simp [toJson, fields, payload, readable_object_iff, Ticket.readable_toJson ha.1,
        StoreRequest.readable_toJson ha.2]
  | replaceList rows =>
      simp [toJson, fields, payload, readable_object_iff, EntitySummary.readable_list]
  | syncListFilter name type =>
      cases name <;> cases type <;> simp [toJson, fields, payload, readable_object_iff, Wire.given]
  | scheduleTimer timer delay =>
      have hdelay : Json.Readable (depth + 7) .whole (.ofNat delay) := readable_ofNat ha.2
      simp [toJson, fields, payload, readable_object_iff, Ticket.readable_toJson ha.1, hdelay]
  | cancelTimer ticket | closeDialog ticket | showDialogError ticket _ =>
      simp [toJson, fields, payload, readable_object_iff, Ticket.readable_toJson ha]
  | openDialog dialog spec =>
      simp [toJson, fields, payload, readable_object_iff, Ticket.readable_toJson ha,
        spec.readable_toJson]
  | _ => simp [toJson, fields, payload, readable_object_iff]

/-- An action is read back from its text exactly if its payload leaves room for one object. -/
theorem parse_compact_toJson {a : Action} (ha : a.WellFormed) (hpayload : a.payload.Integral) :
    Wire.parse .whole ofJson? a.toJson.compact =
      if a.payload.nesting + 1 < Json.depthLimit then some a else none :=
  Wire.parse_compact 1 (ofJson?_toJson ha) hpayload
    (fun _ hdepth => readable_toJson_iff ha.sized hdepth) (by decide)

end Action

/-! ### Texts -/

namespace Json

/-- Arrays inside one another, around `null`. -/
def nested : Nat → Json
  | 0 => .null
  | n + 1 => .array [nested n]

/-- A value of nested lists nests as deep as it says. -/
theorem nesting_nested (n : Nat) : (nested n).nesting = n := by
  induction n with
  | zero => rfl
  | succ n ih => simp [nested, nesting, nestingItems, ih]

/-- A value of nested lists has no floats. -/
theorem integral_nested (n : Nat) : (nested n).Integral := by
  induction n with
  | zero => trivial
  | succ n ih => exact ⟨ih, trivial⟩

/-- A value of nested lists is in order. -/
theorem canonical_nested (n : Nat) : (nested n).canonical = nested n := by
  induction n with
  | zero => rfl
  | succ n ih => simp [nested, canonical, canonicalItems, ih]

end Json

namespace Wire

/-- Events, actions, requests and replies are read back from their texts, unless they carry a
payload that reaches the depth limit together with the objects it stands in: one for an action, two
for a reply, three for an event that brings a reply. All numbers of the payload are integers of 64
bits. -/
theorem parse_compact_messages :
    (∀ a : Action, a.WellFormed → a.payload.Integral →
      parse .whole Action.ofJson? a.toJson.compact =
        if a.payload.nesting + 1 < Json.depthLimit then some a else none) ∧
    (∀ e : Event, e.WellFormed → e.payload.Integral →
      parse .whole Event.ofJson? e.toJson.compact =
        if e.payload.nesting + 3 < Json.depthLimit then some e else none) ∧
    (∀ r : StoreRequest, r.WellSized →
      parse .whole (StoreRequest.ofJson? false) r.toJson.compact = some r) ∧
    ∀ r : StoreReply, r.payload.canonical = r.payload → r.payload.Integral →
      parse .whole (StoreReply.ofJson? false) r.toJson.compact =
        if r.payload.nesting + 2 < Json.depthLimit then some r else none := by
  refine ⟨fun a => Action.parse_compact_toJson, fun e he hpayload => ?_, fun r hr => ?_,
    fun r hr hpayload => ?_⟩
  · exact parse_compact 3 (Event.ofJson?_toJson he) hpayload
      (fun _ hdepth => Event.readable_toJson_iff he.sized hdepth) (by decide)
  · have hreadable : ∀ depth, 7 ≤ depth →
        (Json.Readable (depth + 0) .whole r.toJson ↔ Json.Readable depth .whole .null) := by
      intro depth hdepth
      obtain ⟨depth, rfl⟩ := Nat.exists_eq_add_of_le' hdepth
      exact iff_of_true (StoreRequest.readable_toJson hr depth) trivial
    have hnull : Json.Integral .null := trivial
    exact parse_compact 0 (StoreRequest.ofJson?_toJson false hr) hnull hreadable (by decide)
  · exact parse_compact 2 (StoreReply.ofJson?_toJson false hr) hpayload
      (fun _ hdepth => r.readable_toJson_iff (by omega)) (by decide)

/-- A message of each kind: the least and the greatest integer in a payload, a ticket of 64 bits, a
text that has to be escaped, and a payload as deep as it can be. -/
theorem parse_compact_of_each_kind :
    parse .whole Action.ofJson?
        (Action.render .detail (.object [("a", .int (-9223372036854775808)),
          ("b", .int 18446744073709551615)])).toJson.compact =
      some (.render .detail (.object [("a", .int (-9223372036854775808)),
        ("b", .int 18446744073709551615)])) ∧
    parse .whole Event.ofJson?
        (Event.storeReplied ⟨18446744073709551615⟩
          (.entity ⟨"1", "ViewDefinition", "a\"b\n", .nested 124⟩)).toJson.compact =
      some (.storeReplied ⟨18446744073709551615⟩
        (.entity ⟨"1", "ViewDefinition", "a\"b\n", .nested 124⟩)) ∧
    parse .whole (StoreRequest.ofJson? false)
        (StoreRequest.search ⟨"configs", none, some "", true,
          [⟨"id", "Id", "id", 4294967295, .select ["x"], true⟩]⟩).toJson.compact =
      some (.search ⟨"configs", none, some "", true,
        [⟨"id", "Id", "id", 4294967295, .select ["x"], true⟩]⟩) ∧
    parse .whole (StoreReply.ofJson? false) (StoreReply.listing [⟨"1", "", "é"⟩]).toJson.compact =
      some (.listing [⟨"1", "", "é"⟩]) := by
  have haction := parse_compact_messages.1
    (.render .detail (.object [("a", .int (-9223372036854775808)),
      ("b", .int 18446744073709551615)]))
    ⟨trivial, by decide +kernel⟩ ⟨⟨by decide, by decide⟩, ⟨by decide, by decide⟩, trivial⟩
  have hevent := parse_compact_messages.2.1
    (.storeReplied ⟨18446744073709551615⟩ (.entity ⟨"1", "ViewDefinition", "a\"b\n", .nested 124⟩))
    ⟨by change _ < wordBound; decide, Json.canonical_nested 124⟩ (Json.integral_nested 124)
  have hrequest := parse_compact_messages.2.2.1
    (.search ⟨"configs", none, some "", true,
      [⟨"id", "Id", "id", 4294967295, .select ["x"], true⟩]⟩)
    (List.forall_mem_singleton.2 (by change _ < Column.widthBound; decide))
  have hreply := parse_compact_messages.2.2.2 (.listing [⟨"1", "", "é"⟩]) rfl trivial
  refine ⟨haction.trans (if_pos (by decide)), hevent.trans (if_pos ?_), hrequest,
    hreply.trans (if_pos (by decide))⟩
  change (Json.nested 124).nesting + 3 < Json.depthLimit
  rw [Json.nesting_nested]
  decide

/-- The text of an action with a payload of 127 arrays around `null` is not read. -/
theorem parse_compact_render_of_deep :
    (Action.render .detail (.nested 127)).WellFormed ∧ (Json.nested 127).Integral ∧
      parse .whole Action.ofJson? (Action.render .detail (.nested 127)).toJson.compact = none := by
  have hformed : (Action.render .detail (.nested 127)).WellFormed :=
    ⟨trivial, Json.canonical_nested 127⟩
  have hpayload := Json.integral_nested 127
  refine ⟨hformed, hpayload, (Action.parse_compact_toJson hformed hpayload).trans (if_neg ?_)⟩
  change ¬(Json.nested 127).nesting + 1 < Json.depthLimit
  rw [Json.nesting_nested]
  decide

end Wire

end ConfigBrowser

import ConfigBrowser.History.Document
import ConfigBrowser.Proofs.Json.RoundTrip
import ConfigBrowser.Proofs.Wire.Records
import Mathlib

/-!
# Reading back the History Document

The version of a document has 32 bits and the time of a visit has 64. A document that keeps to that
is read back from its text, and a text is read as no other document.

## Main results

* `HistoryDocument.wellSized_of_ofText?`: a document that has been read keeps to its sizes.
* `HistoryDocument.ofText?_text`: a document that does is read back from its text.
-/

namespace ConfigBrowser

/-- What all readings have in common holds of every item that has been read. -/
theorem forall_of_mapM_eq_some {α β : Type} {read : β → Option α} {p : α → Prop}
    (hread : ∀ j a, read j = some a → p a) {js : List β} {items : List α}
    (h : js.mapM read = some items) : ∀ a ∈ items, p a := by
  induction js generalizing items with
  | nil =>
      cases h
      simp
  | cons j js ih =>
      simp only [List.mapM_cons, bind, Option.bind_eq_some_iff, pure, Option.some.injEq] at h
      obtain ⟨a, ha, rest, hrest, rfl⟩ := h
      exact List.forall_mem_cons.2 ⟨hread j a ha, ih hrest⟩

/-- A value of a map that has been built from pairs comes from one of them. -/
theorem SortedMap.mem_of_get?_foldl_insert {κ α : Type} [Ord κ] [DecidableEq κ] [Std.TransOrd κ]
    [Std.LawfulEqOrd κ] {pairs : List (κ × α)} {m : SortedMap κ α} {k : κ} {v : α}
    (h : (pairs.foldl (fun m e => m.insert e.1 e.2) m).get? k = some v) :
    (k, v) ∈ pairs ∨ m.get? k = some v := by
  induction pairs generalizing m with
  | nil => exact .inr h
  | cons e pairs ih =>
      rcases ih h with hmem | hinsert
      · exact .inl (List.mem_cons_of_mem e hmem)
      · rw [get?_insert] at hinsert
        split at hinsert
        · next hk =>
          cases hinsert
          exact .inl (hk ▸ List.mem_cons_self)
        · exact .inr hinsert

namespace Json

/-- Items that are read back one by one are read back as a list. -/
theorem readableItems_list {depth : Nat} {shape : Shape} {items : List Json}
    (h : ∀ j ∈ items, Readable depth shape j) : ReadableItems depth (.list shape) items := by
  induction items with
  | nil => trivial
  | cons j items ih =>
      obtain ⟨hj, hitems⟩ := List.forall_mem_cons.1 h
      exact ⟨hj, ih hitems⟩

/-- Values that are read back one by one are read back under their keys. -/
theorem readableFields_map {depth : Nat} {shape : Shape} {fields : List (String × Json)}
    (h : ∀ e ∈ fields, Readable depth shape e.2) : ReadableFields depth (.map shape) fields := by
  induction fields with
  | nil => trivial
  | cons e fields ih =>
      obtain ⟨he, hfields⟩ := List.forall_mem_cons.1 h
      exact ⟨⟨shape, rfl, he⟩, ih hfields⟩

end Json

namespace HistoryEntry

/-- Does the time of the visit have 64 bits? -/
def Dated (e : HistoryEntry) : Prop :=
  Int64.minValue.toInt ≤ e.visitedAt ∧ e.visitedAt ≤ Int64.maxValue.toInt

instance (e : HistoryEntry) : Decidable e.Dated := inferInstanceAs (Decidable (_ ∧ _))

/-- An entry with a proper date is read back from its form. -/
theorem ofJson?_toJson {e : HistoryEntry} (he : e.Dated) : ofJson? e.toJson = some e := by
  obtain ⟨name, value, visitedAt⟩ := e
  have htime : Wire.integer Int64.minValue.toInt Int64.maxValue.toInt (.int visitedAt) =
      some visitedAt := Wire.integer_eq_some_iff.2 ⟨rfl, he⟩
  rw [ofJson?]
  -- The simplifier would replace the lower bound by its value.
  generalize Int64.minValue.toInt = low at htime ⊢
  simp [toJson, keys, Wire.members, Wire.hasRepeatedKey, Wire.required, Wire.text,
    List.lookup_cons, htime]

/-- Every entry that is read has a proper date. -/
theorem dated_of_ofJson? {j : Json} {e : HistoryEntry} (h : ofJson? j = some e) : e.Dated := by
  simp only [ofJson?, bind, Option.bind_eq_some_iff, pure, Option.some.injEq, Wire.required] at h
  obtain ⟨m, -, name, -, value, -, visitedAt, ⟨time, -, htime⟩, rfl⟩ := h
  exact (Wire.integer_eq_some_iff.1 htime).2

/-- The form of an entry nests two levels deep. -/
theorem readable_toJson {e : HistoryEntry} (he : e.Dated) {depth : Nat} (hdepth : 1 < depth) :
    Json.Readable depth shape e.toJson := by
  have hmin : Int64.minValue.toInt = -(UInt64.size / 2 : Nat) := by decide
  have hmax : Int64.maxValue.toInt < UInt64.size := by decide
  refine ⟨hdepth, ⟨.whole, rfl, trivial⟩, ⟨.whole, rfl, trivial⟩, ⟨.whole, rfl, ?_⟩, trivial⟩
  exact ⟨hmin ▸ he.1, he.2.trans_lt hmax⟩

end HistoryEntry

namespace HistoryDocument

/-- Does a document keep to the sizes of its numbers? -/
structure WellSized (d : HistoryDocument) : Prop where
  version_lt : d.version < UInt32.size
  dated : ∀ key list, d.lists.get? key = some list → ∀ e ∈ list, e.Dated

/-- A new document is well sized. -/
theorem wellSized_initial : WellSized initial := ⟨by decide, fun _ _ h => by cases h⟩

section Text

variable {d : HistoryDocument}

/-- All entries of a well sized document have proper dates. -/
theorem WellSized.forall_mem_entries (hd : d.WellSized) :
    ∀ list ∈ d.lists.entries, ∀ e ∈ list.2, e.Dated := fun (key, list) hmem =>
  hd.dated key list (SortedMap.mem_entries_iff.1 hmem)

/-- The lists are read back from their form. -/
theorem map_toJson (hd : d.WellSized) :
    Wire.map (Wire.list HistoryEntry.ofJson?)
        (.object (d.lists.entries.map fun (key, list) =>
          (key, Json.ofList HistoryEntry.toJson list))) =
      some d.lists := by
  have hlists : ∀ list ∈ d.lists.entries, Wire.list HistoryEntry.ofJson?
      (Json.ofList HistoryEntry.toJson list.2) = some list.2 := fun list hlist =>
    mapM_map_eq_some fun e he => HistoryEntry.ofJson?_toJson (hd.forall_mem_entries list hlist e he)
  rw [Wire.map, mapM_map_eq_some, Option.map_some, SortedMap.ofList_entries]
  intro list hlist
  rw [hlists list hlist, Option.map_some]

/-- A document is read back from its form. -/
theorem ofJson?_toJson (hd : d.WellSized) : ofJson? d.toJson = some d := by
  have hversion := Wire.count_eq_some_iff.2 ⟨rfl, hd.version_lt⟩
  simp [ofJson?, toJson, Wire.members, Wire.hasRepeatedKey, Wire.required, Wire.withDefault,
    List.lookup_cons, hversion, map_toJson hd]

/-- The form of a document stays within the depth that is read back. -/
theorem readable_toJson (hd : d.WellSized) : Json.Readable Json.depthLimit shape d.toJson := by
  have hsize : UInt32.size < UInt64.size := by decide
  have hlists : ∀ field ∈ d.lists.entries.map fun (key, list) =>
      (key, Json.ofList HistoryEntry.toJson list),
      Json.Readable 126 (.list HistoryEntry.shape) field.2 := by
    rintro field hfield
    obtain ⟨list, hlist, rfl⟩ := List.mem_map.1 hfield
    refine ⟨by decide, Json.readableItems_list fun j hj => ?_⟩
    obtain ⟨e, he, rfl⟩ := List.mem_map.1 hj
    exact HistoryEntry.readable_toJson (hd.forall_mem_entries list hlist e he) (by decide)
  have hversion := hd.version_lt
  refine ⟨by decide, ⟨.whole, rfl, ?_⟩, ⟨_, rfl, by decide, Json.readableFields_map hlists⟩,
    trivial⟩
  constructor <;> omega

/-- A document is read back from its text. -/
theorem ofText?_text (hd : d.WellSized) : ofText? d.text = some d := by
  rw [ofText?, text, Wire.parse, Json.parseAs_pretty (readable_toJson hd), Option.bind_some,
    ofJson?_toJson hd]

/-- A list that has been read holds entries that have been read. -/
theorem dated_of_list {j : Json} {list : List HistoryEntry}
    (h : Wire.list HistoryEntry.ofJson? j = some list) : ∀ e ∈ list, e.Dated := by
  cases j with
  | array items =>
      exact forall_of_mapM_eq_some (fun _ _ => HistoryEntry.dated_of_ofJson?) h
  | _ => cases h

/-- So do all lists of a map that has been read. -/
theorem dated_of_map {j : Json} {lists : SortedMap String (List HistoryEntry)}
    (h : Wire.map (Wire.list HistoryEntry.ofJson?) j = some lists) {key : String}
    {list : List HistoryEntry} (hlist : lists.get? key = some list) : ∀ e ∈ list, e.Dated := by
  cases j with
  | object fields =>
      obtain ⟨pairs, hpairs, rfl⟩ := Option.map_eq_some_iff.1 h
      have hdated : ∀ pair ∈ pairs, ∀ e ∈ pair.2, e.Dated := by
        refine forall_of_mapM_eq_some (fun field pair hpair => ?_) hpairs
        obtain ⟨entries, hentries, rfl⟩ := Option.map_eq_some_iff.1 hpair
        exact dated_of_list hentries
      rcases SortedMap.mem_of_get?_foldl_insert hlist with hmem | hempty
      · exact hdated _ hmem
      · cases hempty
  | _ => cases h

/-- A document that has been read keeps to its sizes. -/
theorem wellSized_of_ofText? {s : String} (h : ofText? s = some d) : d.WellSized := by
  obtain ⟨j, -, hj⟩ := Option.bind_eq_some_iff.1 h
  simp only [ofJson?, bind, Option.bind_eq_some_iff, pure, Option.some.injEq, Wire.required] at hj
  obtain ⟨m, -, version, ⟨number, -, hversion⟩, lists, hlists, rfl⟩ := hj
  refine ⟨(Wire.count_eq_some_iff.1 hversion).2, fun key list hlist => ?_⟩
  dsimp only at hlist
  rw [Wire.withDefault] at hlists
  split at hlists
  · exact dated_of_map hlists hlist
  · cases hlists
    cases hlist

end Text

end HistoryDocument

end ConfigBrowser

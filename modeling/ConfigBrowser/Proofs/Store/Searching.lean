import ConfigBrowser.Proofs.Store.Freshness
import Mathlib

/-!
# Searching the Store

A search lists the stored entities of the type that is asked for whose names match what is asked
for, each in one row, by name and id. Entities are stored under their own ids, so no two rows are
alike.

A name that is longer by some characters finds no more than it did, although it may turn to telling
capitals from small letters: what occurs in a name letter by letter also occurs in it when the case
does not count, and a part of a text without capitals has none.

## Main results

* `MemoryStore.keyedById_after`: entities are stored under their own ids.
* `MemoryStore.mem_listing_iff`, `MemoryStore.KeyedById.listing_ascends`: what a listing holds, and
  in which order.
* `MemoryStore.listing_exact`: what a search answers, and that narrower queries answer less.
-/

namespace ConfigBrowser

namespace Store

/-! ### Names -/

/-- The characters of a search text that names are searched for. -/
def lettersOf (text : String) : List Char := text.toList.filter (· ≠ '*')

/-- Does a name hold the characters of a pattern in their order? ASCII letters count in either case
unless the pattern has an ASCII capital. -/
def Recalls (pattern name : List Char) : Prop :=
  if pattern.any Char.isUpper then pattern.Sublist name
  else (pattern.map Char.toLower).Sublist (name.map Char.toLower)

/-- The match of names looks for the characters of the pattern in their order. -/
theorem nameMatches_iff_recalls {pattern name : List Char} :
    nameMatches pattern name = true ↔ Recalls pattern name := by
  have hexact : caseKey true = id := rfl
  have hlower : caseKey false = Char.toLower := rfl
  rw [nameMatches_iff, Recalls, isCaseSensitive]
  cases pattern.any Char.isUpper <;> simp [hexact, hlower]

/-- A name that recalls a text also recalls what is left of it when characters are left out. -/
theorem Recalls.of_sublist {p q name : List Char} (hsub : p.Sublist q) (h : Recalls q name) :
    Recalls p name := by
  rw [Recalls] at h ⊢
  split at h
  · -- The longer text is searched for as it is written, the shorter one perhaps in either case.
    split
    · exact hsub.trans h
    · exact (hsub.trans h).map _
  · next hq =>
    have hp : ¬ p.any Char.isUpper = true := fun hp => by
      obtain ⟨c, hc, hupper⟩ := List.any_eq_true.1 hp
      exact hq (List.any_eq_true.2 ⟨c, hsub.subset hc, hupper⟩)
    rw [if_neg hp]
    exact (hsub.map _).trans h

/-- A search text has no pattern if nothing but blanks is left without its wildcards. -/
theorem patternOf_eq_none_iff {text : String} :
    patternOf text = none ↔ ∀ c ∈ lettersOf text, Text.isBlank c = true := by
  simp [patternOf, lettersOf]

/-- The pattern of a search text is the text without its wildcards. -/
theorem patternOf_eq_some {text : String} {pattern : List Char}
    (h : patternOf text = some pattern) : pattern = lettersOf text := by
  simp only [patternOf, Option.ite_none_left_eq_some] at h
  exact (Option.some.inj h.2).symm

end Store

open Store

/-! ### Queries -/

namespace SearchQuery

/-- Is an entity of the type that a query asks for? An empty type asks for none. -/
def KindFits (query : SearchQuery) (e : Entity) : Prop :=
  ∀ kind, query.kind = some kind → kind ≠ "" → e.kind = kind

/-- Does the name of an entity recall what a query asks for? Blanks and asterisks alone ask for no
name. -/
def NameFits (query : SearchQuery) (e : Entity) : Prop :=
  ∀ name, query.name = some name → (∃ c ∈ lettersOf name, Text.isBlank c = false) →
    Recalls (lettersOf name) e.name.toList

/-- A query becomes narrower when it asks for a type, after asking for none, and when characters
are added to the name that it asks for, asterisks not counted. -/
inductive Narrows (query : SearchQuery) : SearchQuery → Prop where
  | kind (h : query.kind = none ∨ query.kind = some "") (kind : String) :
      Narrows query { query with kind := some kind }
  | name {q : String} (h : (query.name.elim [] lettersOf).Sublist (lettersOf q)) :
      Narrows query { query with name := some q }

variable {query narrow : SearchQuery} {e : Entity}

/-- What fits a narrower query fits the query. -/
theorem Narrows.kindFits (h : Narrows query narrow) (hfits : narrow.KindFits e) :
    query.KindFits e := by
  cases h with
  | kind habsent _ =>
      intro kind hkind hne
      rcases habsent with hnone | hempty
      · cases hnone.symm.trans hkind
      · exact absurd (Option.some.inj (hempty.symm.trans hkind)).symm hne
  | name _ => exact hfits

/-- A name that fits a narrower query fits the wider one. -/
theorem Narrows.nameFits (h : Narrows query narrow) (hfits : narrow.NameFits e) :
    query.NameFits e := by
  cases h with
  | kind _ _ => exact hfits
  | @name q hsub =>
      rintro p hp ⟨c, hc, hblank⟩
      rw [hp] at hsub
      exact (hfits q rfl ⟨c, hsub.subset hc, hblank⟩).of_sublist hsub

end SearchQuery

open SearchQuery

/-! ### Rows -/

namespace EntitySummary

/-- Does a row stand before another one: is its name smaller, or its id for the same name? -/
def Precedes (a b : EntitySummary) : Prop := a.name < b.name ∨ a.name = b.name ∧ a.id < b.id

end EntitySummary

namespace MemoryStore

/-- Rows are in order if the first one precedes the second one. -/
theorem rowOrder_eq_lt_iff {a b : EntitySummary} : rowOrder a b = .lt ↔ a.Precedes b := by
  simp only [rowOrder, compareLex, compareOn, Ordering.then_eq_lt, compare_lt_iff_lt,
    compare_eq_iff_eq, EntitySummary.Precedes]

instance : Std.Antisymm EntitySummary.Precedes where
  antisymm a b hab hba := by
    rw [← rowOrder_eq_lt_iff] at hab hba
    exact absurd hba (by simp [Std.OrientedCmp.gt_of_lt hab])

/-- Rows in order with different ids are strictly in order. -/
theorem precedes_of_rowLE {a b : EntitySummary} (hle : rowLE a b = true) (hid : a.id ≠ b.id) :
    a.Precedes b := by
  rw [← rowOrder_eq_lt_iff]
  cases horder : rowOrder a b with
  | lt => rfl
  | eq =>
      simp only [rowOrder, compareLex, compareOn, Ordering.then_eq_eq, compare_eq_iff_eq] at horder
      exact absurd horder.2 hid
  | gt => simp [rowLE, horder] at hle

/-- An entity answers a query if its type and its name fit. -/
theorem answers_iff {query : SearchQuery} {e : Entity} :
    answers query e = true ↔ query.KindFits e ∧ query.NameFits e := by
  rw [answers, Bool.and_eq_true]
  refine and_congr ?_ ?_
  · cases hkind : query.kind with
    | none => simp [KindFits, hkind]
    | some kind =>
        simp only [Bool.or_eq_true, decide_eq_true_eq, KindFits, hkind, Option.some.injEq,
          forall_eq', ne_eq]
        exact or_iff_not_imp_left
  · cases hname : query.name with
    | none => simp [NameFits, hname]
    | some name =>
        rw [Option.bind_some]
        cases hpattern : patternOf name with
        | none =>
            have hblank := patternOf_eq_none_iff.1 hpattern
            refine iff_of_true rfl fun p hp ⟨c, hc, hnot⟩ => ?_
            obtain rfl := Option.some.inj (hname.symm.trans hp)
            exact absurd (hblank c hc) (by simp [hnot])
        | some pattern =>
            obtain rfl := patternOf_eq_some hpattern
            have hletter : ∃ c ∈ lettersOf name, Text.isBlank c = false := by
              by_contra hall
              have hnone : patternOf name = none :=
                patternOf_eq_none_iff.2 fun c hc =>
                  (Bool.not_eq_false _).mp fun hnot => hall ⟨c, hc, hnot⟩
              cases hnone.symm.trans hpattern
            rw [nameMatches_iff_recalls]
            constructor
            · intro hrecalls p hp _
              obtain rfl := Option.some.inj (hname.symm.trans hp)
              exact hrecalls
            · exact fun hfits => hfits name hname hletter

/-! ### Entities under their own ids -/

/-- Is every entity stored under its own id? -/
def KeyedById (s : MemoryStore) : Prop := ∀ id e, s.get? id = some e → e.id = id

namespace KeyedById

variable {s : MemoryStore}

/-- An entity that is stored under its own id leaves the others under theirs. -/
theorem insertEntity {entities : SortedMap String Entity}
    (h : ∀ id e, entities.get? id = some e → e.id = id) (e : Entity) :
    ∀ id e', (entities.insert e.id e).get? id = some e' → e'.id = id := by
  intro id e' hget
  rw [SortedMap.get?_insert] at hget
  split at hget
  · next hid => exact Option.some.inj hget ▸ hid.symm
  · exact h id e' hget

/-- Whatever is done to a store, its entities stay under their own ids. -/
theorem act (h : s.KeyedById) (deed : Deed) : (s.act deed).KeyedById := by
  cases deed with
  | insert e => exact insertEntity h e
  | lock id => exact h
  | request r =>
      cases r with
      | get id => exact h
      | search query => exact h
      | put name payload =>
          rw [MemoryStore.act]
          rcases s.execute_put_eq_or name payload with hsame | ⟨hroom, hname⟩
          · rwa [hsame]
          · rw [execute_put hroom hname]
            exact insertEntity h (entityOf _ name payload)
      | delete id =>
          rw [MemoryStore.act, execute, execute?, Option.getD_some]
          rcases s.delete_cases id with hdelete | ⟨text, hdelete⟩ <;> rw [hdelete]
          · exact fun other e hget => h other e (SortedMap.get?_of_get?_erase hget)
          · exact h

end KeyedById

/-- After any deeds all entities are stored under their own ids. -/
theorem keyedById_after (deeds : List Deed) : (empty.after deeds).KeyedById := by
  induction deeds using List.reverseRecOn with
  | nil => exact fun _ _ hget => by cases hget
  | append_singleton deeds deed ih => exact after_append_singleton _ _ _ ▸ ih.act deed

/-! ### Listings -/

/-- The rows of a listing, before they are sorted. -/
def rows (s : MemoryStore) (query : SearchQuery) : List EntitySummary :=
  (s.entities.values.filter (answers query)).map Entity.summary

/-- Sorting loses no row and adds none. -/
theorem listing_perm (s : MemoryStore) (query : SearchQuery) :
    (s.listing query).Perm (s.rows query) :=
  List.mergeSort_perm _ _

/-- Rows that are in order already are left as they are. -/
theorem listing_eq_rows {s : MemoryStore} {query : SearchQuery}
    (h : (s.rows query).Pairwise fun a b => rowLE a b = true) : s.listing query = s.rows query :=
  List.mergeSort_of_pairwise h

/-- A listing holds the rows of the stored entities that fit. -/
theorem mem_listing_iff {s : MemoryStore} {query : SearchQuery} {row : EntitySummary} :
    row ∈ s.listing query ↔ ∃ id e, s.get? id = some e ∧ query.KindFits e ∧ query.NameFits e ∧
      e.summary = row := by
  have hvalues : ∀ e, e ∈ s.entities.values ↔ ∃ id, s.get? id = some e := fun e => by
    simp [SortedMap.values, MemoryStore.get?, ← SortedMap.mem_entries_iff]
  rw [(s.listing_perm query).mem_iff, rows, List.mem_map]
  simp only [List.mem_filter, hvalues, answers_iff]
  constructor
  · rintro ⟨e, ⟨⟨id, hget⟩, hkind, hname⟩, hrow⟩
    exact ⟨id, e, hget, hkind, hname, hrow⟩
  · rintro ⟨id, e, hget, hkind, hname, hrow⟩
    exact ⟨e, ⟨⟨id, hget⟩, hkind, hname⟩, hrow⟩

namespace KeyedById

variable {s : MemoryStore} (h : s.KeyedById)
include h

/-- The ids of the stored entities are the keys of the store. -/
theorem map_id_values : s.entities.values.map Entity.id = s.entities.keys := by
  rw [SortedMap.values, SortedMap.keys, List.map_map]
  refine List.map_congr_left fun entry hentry => ?_
  exact h entry.1 entry.2 (SortedMap.mem_entries_iff.1 hentry)

/-- No id comes twice in a listing. -/
theorem nodup_ids (query : SearchQuery) : ((s.listing query).map EntitySummary.id).Nodup := by
  have hkeys : s.entities.keys.Nodup :=
    List.pairwise_map.2 (s.entities.sorted.imp fun hlt heq => by simp [heq] at hlt)
  have hids : (s.entities.values.map Entity.id).Nodup := h.map_id_values ▸ hkeys
  rw [((s.listing_perm query).map _).nodup_iff, rows, List.map_map]
  exact hids.sublist (List.filter_sublist.map _)

/-- A listing ascends by name and id. -/
theorem listing_ascends (query : SearchQuery) :
    (s.listing query).Pairwise EntitySummary.Precedes :=
  (s.listing_sorted query).imp₂ (fun _ _ hle hid => precedes_of_rowLE hle hid)
    (List.pairwise_map.1 (h.nodup_ids query))

/-- A narrower query lists no row more. -/
theorem listing_sublist {query narrow : SearchQuery} (hnarrow : query.Narrows narrow) :
    (s.listing narrow).Sublist (s.listing query) := by
  have hsubset : s.listing narrow ⊆ s.listing query := fun row hrow => by
    obtain ⟨id, e, hget, hkind, hname, rfl⟩ := mem_listing_iff.1 hrow
    exact mem_listing_iff.2
      ⟨id, e, hget, hnarrow.kindFits hkind, hnarrow.nameFits hname, rfl⟩
  have hnodup : (s.listing narrow).Nodup := .of_map _ (h.nodup_ids narrow)
  exact List.sublist_of_subperm_of_pairwise (List.subperm_of_subset hnodup hsubset)
    (h.listing_ascends narrow) (h.listing_ascends query)

end KeyedById

/-- A search answers with the rows of the stored entities that fit the query, each in one row, by
name and id, and changes nothing. To a narrower query it answers with some of these rows, in the
same order. -/
theorem listing_exact (deeds : List Deed) (query : SearchQuery) :
    let s := empty.after deeds
    ∃ found, s.execute (.search query) = (.listing found, s) ∧
      (∀ row, row ∈ found ↔ ∃ id e, s.get? id = some e ∧ query.KindFits e ∧ query.NameFits e ∧
        e.summary = row) ∧
      (found.map EntitySummary.id).Nodup ∧ found.Pairwise EntitySummary.Precedes ∧
      ∀ narrow, query.Narrows narrow →
        ∃ fewer, s.execute (.search narrow) = (.listing fewer, s) ∧ fewer.Sublist found := by
  intro s
  have hkeyed : s.KeyedById := keyedById_after deeds
  exact ⟨s.listing query, s.execute_search query, fun _ => mem_listing_iff,
    hkeyed.nodup_ids query, hkeyed.listing_ascends query, fun narrow hnarrow =>
      ⟨s.listing narrow, s.execute_search narrow, hkeyed.listing_sublist hnarrow⟩⟩

/-- Rows of the same name stand by their ids. With a capital in it a longer text tells capitals from
small letters, and with a type besides it no entity is left. -/
theorem listing_of_three_entities :
    let entity (id kind name : String) : Entity := ⟨id, kind, name, .null⟩
    let s := ofEntities
      [entity "2" "B" "fx view", entity "10" "A" "fx View", entity "1" "A" "fx View"]
    let query : SearchQuery := ⟨"configs", some "*fw", some "", false, []⟩
    let longer := { query with name := some "f*Vw" }
    (s.listing query).map EntitySummary.id = ["1", "10", "2"] ∧ query.Narrows longer ∧
    (∃ fewer, s.execute (.search longer) = (.listing fewer, s) ∧
      fewer.map EntitySummary.id = ["1", "10"] ∧ fewer.Sublist (s.listing query)) ∧
    longer.Narrows { longer with kind := some "B" } ∧
    s.listing { longer with kind := some "B" } = [] := by
  intro entity s query longer
  have hlonger : query.Narrows longer := .name (List.isSublist_iff_sublist.1 (by decide))
  obtain ⟨found, hfound, -, -, -, hnarrower⟩ := listing_exact
    [.insert (entity "2" "B" "fx view"), .insert (entity "10" "A" "fx View"),
      .insert (entity "1" "A" "fx View")] query
  obtain rfl : s.listing query = found := StoreReply.listing.inj (Prod.mk.inj hfound).1
  obtain ⟨fewer, hfewer, hsub⟩ := hnarrower longer hlonger
  obtain rfl : s.listing longer = fewer := StoreReply.listing.inj (Prod.mk.inj hfewer).1
  have hrows : s.listing query = s.rows query := listing_eq_rows (by decide +kernel)
  have hfewerRows : s.listing longer = s.rows longer := listing_eq_rows (by decide +kernel)
  have hnone : s.listing { longer with kind := some "B" } =
      s.rows { longer with kind := some "B" } := listing_eq_rows (by decide +kernel)
  refine ⟨?_, hlonger, ⟨_, hfewer, ?_, hsub⟩, .kind (.inr rfl) "B", ?_⟩
  · rw [hrows]
    decide +kernel
  · rw [hfewerRows]
    decide +kernel
  · rw [hnone]
    decide +kernel

end MemoryStore

end ConfigBrowser

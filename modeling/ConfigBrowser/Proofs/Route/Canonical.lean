import ConfigBrowser.Proofs.Route.RoundTrip

/-!
# The Canonical Path of a Route

Many paths lead to the same route: hash signs and slashes in front do not count, nor do empty
pieces, the name and the type may come in any order and a flag may have a value, and a percent sign
may stand for itself. The path that is written for the route is the canonical one. It leads to the
same route, but for the value of the flag, and it is written for that route again.

What makes it so are the facts known of the arguments of a resolved path. An id that was read from a
piece is not empty, so that it is written, and does not have the form `key:value`, so that it is
read back.

## Main results

* `Handler.canonical_eq_bareFlag`: nothing gets lost on the way through a path but the value of the
  flag.
* `Handler.Admits.renders`, `Handler.Admits.not_ambiguous`: a resolved route is written, and read
  back.
* `canonical_path_stable`: every resolved route has a canonical path, which leads back to it.
-/

namespace ConfigBrowser

open Route

/-! ### Flags without a value -/

namespace RouteArgs

/-- A first argument that is not empty counts as the id. -/
theorem id?_eq_get? {args : RouteArgs} (h : args.get? idKey ≠ some "") :
    args.id? = args.get? idKey := by
  rw [id?]
  cases hget : args.get? idKey with
  | none => rfl
  | some id =>
      refine Option.filter_eq_some_iff.2 ⟨rfl, ?_⟩
      simpa [hget] using h

end RouteArgs

namespace Handler

/-- The arguments with the handler's flag bare: it is there and has no value. -/
def bareFlag (h : Handler) (args : RouteArgs) : RouteArgs :=
  match h.flag? with
  | some flag => args.set flag.key ""
  | none => args

/-- Making a flag bare changes the value of that flag alone. -/
theorem get?_bareFlag (h : Handler) (args : RouteArgs) (key : String) :
    (h.bareFlag args).get? key =
      if h.flag?.map Flag.key = some key then some "" else args.get? key := by
  rw [bareFlag]
  cases h.flag? with
  | none => rfl
  | some flag => simp [RouteArgs.get?_set, eq_comm]

/-- Nothing gets lost on the way through a path but the value of the flag, if the pattern names all
the arguments and the id is not empty. -/
theorem canonical_eq_bareFlag {h : Handler} {args : RouteArgs}
    (hkeys : ∀ key, args.contains key = true → key ∈ h.keys)
    (hid : args.get? RouteArgs.idKey ≠ some "") : h.canonical args = h.bareFlag args := by
  refine SortedMap.ext_get? fun key => ?_
  rw [get?_canonical, get?_bareFlag]
  split
  · rfl
  · split
    · split
      · next heq => rw [heq, RouteArgs.id?_eq_get? hid]
      · rfl
    · next hkey =>
      have hfree : args.contains key = false := by
        rw [← Bool.not_eq_true]
        exact fun hbound => hkey (hkeys key hbound)
      exact (RouteArgs.contains_eq_false_iff.1 hfree).symm

/-- The pieces of a path depend on the id, the name and the type alone. -/
theorem pieces_congr (h : Handler) {args args' : RouteArgs} (hid : args.id? = args'.id?)
    (hname : args.name? = args'.name?) (htype : args.type? = args'.type?) :
    h.pieces args = h.pieces args' := by
  have hids : idPieces args = idPieces args' := by rw [idPieces, idPieces, hid]
  have hlist : listPieces args = listPieces args' := by
    rw [listPieces, listPieces, hname, htype]
  cases h <;> simp only [pieces, hids, hlist]

/-- The value of a flag is not written. -/
theorem path_bareFlag (page : String) (h : Handler) (args : RouteArgs) :
    h.path page (h.bareFlag args) = h.path page args := by
  have hkept : ∀ key ∈ [RouteArgs.idKey, RouteArgs.nameKey, RouteArgs.typeKey],
      (h.bareFlag args).get? key = args.get? key := by
    intro key hkey
    have hother : h.flag?.map Flag.key ≠ some key := by
      revert key
      cases h <;> decide
    rw [get?_bareFlag, if_neg hother]
  have hpieces : h.pieces (h.bareFlag args) = h.pieces args := by
    refine h.pieces_congr ?_ (hkept _ (by simp)) (hkept _ (by simp))
    rw [RouteArgs.id?, RouteArgs.id?, hkept _ (by simp)]
  rw [path, path, hpieces]

/-! ### Arguments of a resolved route -/

namespace Admits

variable {h : Handler} {args : RouteArgs}

/-- A handler whose pattern names no id has arguments without one. -/
theorem id?_eq_none (ha : h.Admits args) (hkeys : RouteArgs.idKey ∉ h.keys) : args.id? = none := by
  have hnone : args.get? RouteArgs.idKey = none := by
    rw [← RouteArgs.contains_eq_false_iff, ← Bool.not_eq_true]
    exact fun hcontains => hkeys (ha.mem_keys _ hcontains)
  rw [RouteArgs.id?, hnone]
  rfl

/-- The id of a resolved route is not empty. -/
theorem get?_id_ne (ha : h.Admits args) : args.get? RouteArgs.idKey ≠ some "" :=
  fun hget => (ha.id "" hget).1 rfl

/-- A handler whose pattern requires an id has arguments with one. -/
theorem exists_id (ha : h.Admits args) (hrequires : h.requiresId = true) :
    ∃ id, args.id? = some id := by
  rw [RouteArgs.id?_eq_get? ha.get?_id_ne]
  exact Option.isSome_iff_exists.1 (ha.requiresId hrequires)

/-- The id of a resolved route never has the form `key:value`. -/
theorem not_isNamedForm (ha : h.Admits args) {id : String} (hid : args.id? = some id) :
    ¬ Route.IsNamedForm id.toList :=
  (ha.id id (Option.filter_eq_some_iff.1 hid).1).2

/-- The arguments of a resolved route are all that its path needs. -/
theorem renders (ha : h.Admits args) : h.Renders args where
  flag := ha.flag
  id hrequires := Option.isSome_iff_exists.2 (ha.exists_id hrequires)

/-- The id of a resolved route is read back. -/
theorem not_ambiguous (ha : h.Admits args) : ¬ h.Ambiguous args := by
  rintro ⟨-, id, hget, hform⟩
  exact (ha.id id hget).2 hform

end Admits

end Handler

/-! ### Canonical paths -/

section Page

variable {page path : String} {table : RouteTable Handler} {h : Handler} {args : RouteArgs}

/-- The path that is written for a resolved route leads back to it, and is written for what it leads
to. -/
theorem exists_canonical_path (hpage : Routable page) (htable : pageTable page = .ok table)
    (hresolve : table.resolve path = .ok (h, args)) :
    ∃ canonical, table.hash h args = .ok canonical ∧
      table.resolve canonical = .ok (h, h.bareFlag args) ∧
      table.hash h (h.bareFlag args) = .ok canonical := by
  have ha : h.Admits args := admits_of_resolve hpage.colon htable hresolve
  have hhash : table.hash h args = .ok (h.path page args) :=
    (hash_eq_ok_iff hpage.colon htable).2 ⟨ha.renders, rfl⟩
  have hback : table.resolve (h.path page args) = .ok (h, h.bareFlag args) := by
    rw [← Handler.canonical_eq_bareFlag ha.mem_keys ha.get?_id_ne]
    exact resolve_of_hash_of_not_ambiguous hpage htable hhash ha.not_ambiguous
  have hagain : table.hash h (h.bareFlag args) = .ok (h.path page args) := by
    have hbare := admits_of_resolve hpage.colon htable hback
    exact (hash_eq_ok_iff hpage.colon htable).2 ⟨hbare.renders, (h.path_bareFlag page args).symm⟩
  exact ⟨_, hhash, hback, hagain⟩

/-- On a page whose paths can be told from others, every path that resolves has a canonical one. The
canonical path leads to the same handler and the same arguments, but for the value of the flag, and
is canonical itself. Two paths have the same canonical path exactly when they lead to the same
handler and the same arguments, but for the value of the flag. -/
theorem canonical_path_stable (hpage : Routable page) :
    ∃ table, pageTable page = .ok table ∧ ∀ path h args, table.resolve path = .ok (h, args) →
      ∃ canonical, table.hash h args = .ok canonical ∧
        table.resolve canonical = .ok (h, h.bareFlag args) ∧
        table.hash h (h.bareFlag args) = .ok canonical ∧
        ∀ path' h' args', table.resolve path' = .ok (h', args') →
          (table.hash h' args' = .ok canonical ↔ h' = h ∧ h'.bareFlag args' = h.bareFlag args) := by
  have htable := pageTable_eq hpage.colon
  refine ⟨_, htable, fun path h args hresolve => ?_⟩
  obtain ⟨canonical, hhash, hback, hagain⟩ := exists_canonical_path hpage htable hresolve
  refine ⟨canonical, hhash, hback, hagain, fun path' h' args' hresolve' => ?_⟩
  obtain ⟨canonical', hhash', hback', hagain'⟩ := exists_canonical_path hpage htable hresolve'
  constructor
  · intro hsame
    obtain rfl := Except.ok.inj (hhash'.symm.trans hsame)
    exact Prod.mk.inj (Except.ok.inj (hback'.symm.trans hback))
  · rintro ⟨rfl, hbare⟩
    rw [hhash', ← hagain', hbare, hagain]

/-- On the page `configs` an edit's path with a value for the flag, in another order and with a
slash escaped in lower case, leads to the route of its canonical path. -/
theorem canonical_path_configs_edit : ∃ table args, pageTable "configs" = .ok table ∧
    table.resolve "#/configs//a%2fb/type:T/edit:now/name:x" = .ok (.loadEditConfigs, args) ∧
    table.hash .loadEditConfigs args = .ok "configs/a%2Fb/edit:/name:x/type:T" ∧
    args ≠ Handler.loadEditConfigs.bareFlag args ∧
    table.resolve "configs/a%2Fb/edit:/name:x/type:T" =
      .ok (.loadEditConfigs, Handler.loadEditConfigs.bareFlag args) := by
  have hpage : Routable "configs" := ⟨by decide, 'c', by decide, by decide⟩
  obtain ⟨table, htable, hstable⟩ := canonical_path_stable hpage
  have hresolve : ∃ args, table.resolve "#/configs//a%2fb/type:T/edit:now/name:x" =
      .ok (.loadEditConfigs, args) ∧ args.get? Flag.edit.key = some "now" ∧
      Handler.loadEditConfigs.path "configs" args = "configs/a%2Fb/edit:/name:x/type:T" := by
    rw [pageTable_eq hpage.colon] at htable
    obtain rfl := Except.ok.inj htable
    exact ⟨_, rfl, rfl, by decide +kernel⟩
  obtain ⟨args, hresolve, hvalue, hpath⟩ := hresolve
  obtain ⟨canonical, hhash, hback, -⟩ := hstable _ _ _ hresolve
  obtain rfl : canonical = "configs/a%2Fb/edit:/name:x/type:T" :=
    ((hash_eq_ok_iff hpage.colon htable).1 hhash).2.trans hpath
  refine ⟨table, args, htable, hresolve, hhash, fun hsame => ?_, hback⟩
  have hbare : (Handler.loadEditConfigs.bareFlag args).get? Flag.edit.key = some "" := by
    rw [Handler.get?_bareFlag, if_pos (by decide)]
  rw [← hsame, hvalue] at hbare
  exact absurd hbare (by decide)

end Page

end ConfigBrowser

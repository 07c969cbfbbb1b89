import ConfigBrowser.Proofs.Route.PageRules

/-!
# Resolving Paths of a Page

What the pieces behind a page's words say about the rule they fit. The names of the pieces tell the
handler, so no two rules fit the same path, and a path resolves exactly to the rule that it fits.

## Main results

* `Handler.ofNames_of_matchSteps`: the names of the pieces tell the handler of the rule they fit.
* `Handler.eq_of_matchSteps`: no two rules fit the same pieces.
* `Handler.admits_of_matchSteps`: what is known of the arguments that a path resolved to.
* `resolve_eq_ok_iff_of_page`: what a path of a page resolves to.
-/

namespace ConfigBrowser

open Route

namespace Handler

/-! ### Pieces with an id in front -/

/-- The arguments that hold nothing but an id. -/
def idOnly (piece : List Char) : RouteArgs :=
  RouteArgs.set .empty RouteArgs.idKey (String.ofList (decode piece))

/-- The id is the only argument of a bare id. -/
theorem get?_idOnly (piece : List Char) (key : String) :
    (idOnly piece).get? key =
      if key = RouteArgs.idKey then some (String.ofList (decode piece)) else none := by
  rw [idOnly, RouteArgs.set, SortedMap.get?_insert, SortedMap.get?_empty]

/-- A bare id has the id for its key, and no other. -/
theorem contains_idOnly (piece : List Char) (key : String) :
    (idOnly piece).contains key = true ↔ key = RouteArgs.idKey := by
  rw [SortedMap.contains, get?_idOnly]
  split <;> simp_all

/-- A bare id has no other key. -/
theorem contains_idOnly_of_ne {piece : List Char} {key : String} (h : key ≠ RouteArgs.idKey) :
    (idOnly piece).contains key = false := by
  rw [← Bool.not_eq_true, contains_idOnly]
  exact h

/-- Steps that begin with an id fit pieces with a piece in front that names nothing. -/
theorem of_matchSteps_withId {parameters : List (String × Bool)} {args : RouteArgs}
    {pieces : List (List Char)}
    (h : matchSteps [.positional RouteArgs.idKey false, .run parameters] .empty pieces =
      some args) :
    ∃ piece rest, pieces = piece :: rest ∧ nameOf piece = none ∧
      Takes parameters (idOnly piece) rest args ∧
      ∀ p ∈ parameters, p.2 = true ∨ args.contains p.1 = true := by
  cases pieces with
  | nil => simp [matchSteps] at h
  | cons piece rest =>
      rw [matchSteps] at h
      split at h
      · next hname =>
        obtain ⟨htakes, hrequired⟩ := of_matchSteps_last_run h
        refine ⟨piece, rest, rfl, ?_, htakes, hrequired⟩
        rw [nameOf, Option.map_eq_none_iff]
        simpa using hname
      · simp at h

/-- An id in front of a run that does not bind the id is the id of the arguments. -/
theorem get?_id_of_takes {parameters : List (String × Bool)} {piece : List Char}
    {rest : List (List Char)} {args : RouteArgs}
    (h : Takes parameters (idOnly piece) rest args) :
    args.get? RouteArgs.idKey = some (String.ofList (decode piece)) := by
  rw [h.keeps _ ((contains_idOnly piece _).2 rfl), get?_idOnly, if_pos rfl]

/-- A value read from a piece that is there and names nothing is neither empty nor of the form
`key:value`. -/
theorem of_decode_piece {piece : List Char} (hne : piece ≠ []) (hname : nameOf piece = none) :
    String.ofList (decode piece) ≠ "" ∧ ¬ IsNamedForm (String.ofList (decode piece)).toList := by
  refine ⟨fun he => decode_ne_nil hne ?_, fun hform => ?_⟩
  · simpa using congrArg String.toList he
  · rw [String.toList_ofList] at hform
    exact nameOf_eq_none_iff.1 hname (isNamedForm_of_decode hform)

/-! ### Pieces behind a filter flag -/

/-- An optional id takes the next piece if that names nothing. -/
theorem of_matchSteps_optionalId {parameters : List (String × Bool)} {first args : RouteArgs}
    {pieces : List (List Char)}
    (h : matchSteps [.positional RouteArgs.idKey true, .run parameters] first pieces = some args) :
    ∃ middle listed, Takes parameters middle listed args ∧
      (middle = first ∨ ∃ piece ∈ pieces, nameOf piece = none ∧
        middle = first.set RouteArgs.idKey (String.ofList (decode piece))) := by
  cases pieces with
  | nil =>
      rw [matchSteps] at h
      obtain ⟨htakes, -⟩ := of_matchSteps_last_run (by simpa using h)
      exact ⟨first, [], htakes, .inl rfl⟩
  | cons piece rest =>
      rw [matchSteps] at h
      split at h
      · next hname =>
        obtain ⟨htakes, -⟩ := of_matchSteps_last_run h
        have hnone : nameOf piece = none := by
          rw [nameOf, Option.map_eq_none_iff]
          simpa using hname
        exact ⟨_, rest, htakes, .inr ⟨piece, List.mem_cons_self, hnone, rfl⟩⟩
      · obtain ⟨htakes, -⟩ := of_matchSteps_last_run (by simpa using h)
        exact ⟨first, piece :: rest, htakes, .inl rfl⟩

/-- The steps of the filter route fit pieces that begin with the flag; behind it an id may stand,
and then the list's parameters. -/
theorem of_matchSteps_loadFilter {args : RouteArgs} {pieces : List (List Char)}
    (h : matchSteps loadFilter.steps .empty pieces = some args) :
    ∃ flag rest first middle listed, pieces = flag :: rest ∧
      nameOf flag = some Flag.filter.key ∧
      (∀ key, first.contains key = true ↔ key = Flag.filter.key) ∧
      (middle = first ∨ ∃ piece ∈ pieces, nameOf piece = none ∧
        middle = first.set RouteArgs.idKey (String.ofList (decode piece))) ∧
      Takes listParameters middle listed args := by
  rw [steps_loadFilter] at h
  obtain ⟨taken, rest, first, rfl, htakes, hrequired, hrest⟩ := of_matchSteps_run h
  obtain ⟨middle, listed, hlist, hmiddle⟩ := of_matchSteps_optionalId hrest
  have hfilter : first.contains Flag.filter.key = true := by
    simpa using hrequired (Flag.filter.key, false) List.mem_cons_self
  have hfirst : ∀ key, first.contains key = true ↔ key = Flag.filter.key := fun key =>
    ⟨fun hkey => by simpa [SortedMap.contains] using htakes.contains_or_mem hkey,
      fun hkey => hkey ▸ hfilter⟩
  have hmem := htakes.mem_of_contains hfilter rfl
  cases taken with
  | nil => simp at hmem
  | cons flag front =>
      obtain ⟨key, hkey, hname⟩ := htakes.declared flag List.mem_cons_self
      obtain rfl : key = Flag.filter.key := by simpa using hkey
      refine ⟨flag, front ++ rest, first, middle, listed, rfl, hname, hfirst, ?_, hlist⟩
      refine hmiddle.imp_right ?_
      rintro ⟨piece, hpiece, hunnamed, heq⟩
      exact ⟨piece, List.mem_append_right _ hpiece, hunnamed, heq⟩

/-! ### The handler of a path -/

/-- Pieces that all have names, none of them that of the filter flag, lead to the list. -/
theorem ofNames_of_named {names : List (Option String)} (hnamed : none ∉ names)
    (hfilter : some Flag.filter.key ∉ names) :
    ofNames names = if some Flag.deleted.key ∈ names then loadDelete else load := by
  cases names with
  | nil => decide
  | cons name rest =>
      cases name with
      | none => exact absurd List.mem_cons_self hnamed
      | some key =>
          have hhead : (some key :: rest).head? ≠ some (some Flag.filter.key) := fun he =>
            hfilter (List.mem_of_mem_head? he)
          rw [ofNames, if_neg hhead]
          exact fun rest' he => by simp at he

/-- The names of the pieces tell the handler of the rule they fit. -/
theorem ofNames_of_matchSteps {h : Handler} {args : RouteArgs} {pieces : List (List Char)}
    (hfit : matchSteps h.steps .empty pieces = some args) : ofNames (pieces.map nameOf) = h := by
  cases h with
  | load =>
      obtain ⟨htakes, -⟩ := of_matchSteps_last_run hfit
      have hdeleted : some Flag.deleted.key ∉ _ := htakes.not_mem (by decide)
      rw [ofNames_of_named htakes.none_not_mem (htakes.not_mem (by decide)), if_neg hdeleted]
  | loadFilter =>
      obtain ⟨flag, rest, -, -, -, rfl, hname, -⟩ := of_matchSteps_loadFilter hfit
      simp [ofNames, hname]
  | loadDelete =>
      obtain ⟨htakes, hrequired⟩ := of_matchSteps_last_run hfit
      have hbound : args.contains Flag.deleted.key = true := by
        simpa using hrequired (Flag.deleted.key, false) List.mem_cons_self
      have hdeleted := htakes.mem_of_contains hbound rfl
      rw [ofNames_of_named htakes.none_not_mem (htakes.not_mem (by decide)), if_pos hdeleted]
  | loadConfigs =>
      obtain ⟨piece, rest, rfl, hname, htakes, -⟩ := of_matchSteps_withId hfit
      have hnew : some Flag.new.key ∉ _ := htakes.not_mem (by decide)
      have hedit : some Flag.edit.key ∉ _ := htakes.not_mem (by decide)
      rw [List.map_cons, hname, ofNames, if_neg hnew, if_neg hedit]
  | loadNewConfigs =>
      obtain ⟨piece, rest, rfl, hname, htakes, hrequired⟩ := of_matchSteps_withId hfit
      have hbound : args.contains Flag.new.key = true := by
        simpa using hrequired (Flag.new.key, false) List.mem_cons_self
      have hnew := htakes.mem_of_contains hbound (contains_idOnly_of_ne (by decide))
      rw [List.map_cons, hname, ofNames, if_pos hnew]
  | loadEditConfigs =>
      obtain ⟨piece, rest, rfl, hname, htakes, hrequired⟩ := of_matchSteps_withId hfit
      have hbound : args.contains Flag.edit.key = true := by
        simpa using hrequired (Flag.edit.key, false) List.mem_cons_self
      have hedit := htakes.mem_of_contains hbound (contains_idOnly_of_ne (by decide))
      have hnew : some Flag.new.key ∉ _ := htakes.not_mem (by decide)
      rw [List.map_cons, hname, ofNames, if_neg hnew, if_pos hedit]

/-- No two rules fit the same pieces. -/
theorem eq_of_matchSteps {h h' : Handler} {args args' : RouteArgs} {pieces : List (List Char)}
    (hfit : matchSteps h.steps .empty pieces = some args)
    (hfit' : matchSteps h'.steps .empty pieces = some args') : h = h' :=
  (ofNames_of_matchSteps hfit).symm.trans (ofNames_of_matchSteps hfit')

/-! ### The arguments of a path -/

/-- What is known of arguments with an id in front of a run. -/
theorem admits_of_takes_idOnly {h : Handler} {parameters : List (String × Bool)} {piece : List Char}
    {rest : List (List Char)} {args : RouteArgs} (hne : piece ≠ []) (hname : nameOf piece = none)
    (htakes : Takes parameters (idOnly piece) rest args)
    (hkeys : ∀ key ∈ RouteArgs.idKey :: parameters.map Prod.fst, key ∈ h.keys)
    (hflag : ∀ flag, h.flag? = some flag → args.hasFlag flag = true) : h.Admits args where
  mem_keys key hkey := by
    refine hkeys key (List.mem_cons.2 ?_)
    exact (htakes.contains_or_mem hkey).imp_left (contains_idOnly piece key).1
  flag := hflag
  id id hid := by
    rw [get?_id_of_takes htakes] at hid
    obtain rfl := Option.some.inj hid
    exact of_decode_piece hne hname
  requiresId _ := by rw [SortedMap.contains, get?_id_of_takes htakes]; rfl

/-- What is known of the arguments behind a filter flag. -/
theorem admits_loadFilter {args : RouteArgs} {pieces : List (List Char)}
    (hpieces : ∀ p ∈ pieces, p ≠ [])
    (hfit : matchSteps loadFilter.steps .empty pieces = some args) :
    loadFilter.Admits args := by
  obtain ⟨-, -, first, middle, listed, -, -, hfirst, hmiddle, htakes⟩ :=
    of_matchSteps_loadFilter hfit
  have hget : ∀ key, middle.get? key = first.get? key ∨ key = RouteArgs.idKey ∧
      ∃ piece ∈ pieces, nameOf piece = none ∧
        middle.get? key = some (String.ofList (decode piece)) := by
    intro key
    rcases hmiddle with rfl | ⟨piece, hpiece, hname, rfl⟩
    · exact .inl rfl
    · rw [RouteArgs.set, SortedMap.get?_insert]
      by_cases hkey : key = RouteArgs.idKey
      · exact .inr ⟨hkey, piece, hpiece, hname, if_pos hkey⟩
      · exact .inl (if_neg hkey)
  have hcontains : ∀ key, middle.contains key = true →
      key = Flag.filter.key ∨ key = RouteArgs.idKey := by
    intro key hkey
    rcases hget key with he | ⟨hid, -⟩
    · exact .inl ((hfirst key).1 (by rwa [SortedMap.contains, ← he]))
    · exact .inr hid
  refine ⟨fun key hkey => ?_, ?_, fun id hid => ?_, by simp [requiresId]⟩
  · rcases htakes.contains_or_mem hkey with hmid | hlist
    · rcases hcontains key hmid with rfl | rfl <;> decide
    · exact List.mem_cons_of_mem _ (List.mem_cons_of_mem _ hlist)
  · rintro flag ⟨⟩
    refine (htakes.contains_iff _).2 (.inl ?_)
    rcases hget Flag.filter.key with he | ⟨hid, -⟩
    · rw [SortedMap.contains, he]
      exact (hfirst _).2 rfl
    · exact absurd hid (by decide)
  · have hbound : args.contains RouteArgs.idKey = true := by rw [SortedMap.contains, hid]; rfl
    have hmid : middle.contains RouteArgs.idKey = true :=
      (htakes.contains_or_mem hbound).resolve_right (by decide)
    rw [htakes.keeps _ hmid] at hid
    rcases hget RouteArgs.idKey with he | ⟨-, piece, hpiece, hname, he⟩
    · have hnot : first.contains RouteArgs.idKey = true := by rwa [SortedMap.contains, ← he]
      exact absurd ((hfirst _).1 hnot) (by decide)
    · obtain rfl := Option.some.inj (he.symm.trans hid)
      exact of_decode_piece (hpieces piece hpiece) hname

/-- What is known of arguments without an id. -/
theorem admits_of_takes_empty {h : Handler} {parameters : List (String × Bool)}
    {rest : List (List Char)} {args : RouteArgs} (htakes : Takes parameters .empty rest args)
    (hid : RouteArgs.idKey ∉ parameters.map Prod.fst)
    (hkeys : ∀ key ∈ parameters.map Prod.fst, key ∈ h.keys)
    (hflag : ∀ flag, h.flag? = some flag → args.hasFlag flag = true)
    (hrequires : h.requiresId = false) : h.Admits args := by
  have hmem : ∀ key, args.contains key = true → key ∈ parameters.map Prod.fst := fun key hkey =>
    (htakes.contains_or_mem hkey).resolve_left (by simp [SortedMap.contains])
  refine ⟨fun key hkey => hkeys key (hmem key hkey), hflag, fun id hget => ?_, by simp [hrequires]⟩
  exact absurd (hmem _ (by rw [SortedMap.contains, hget]; rfl)) hid

/-- What is known of the arguments that a path resolved to. -/
theorem admits_of_matchSteps {h : Handler} {args : RouteArgs} {pieces : List (List Char)}
    (hpieces : ∀ p ∈ pieces, p ≠ []) (hfit : matchSteps h.steps .empty pieces = some args) :
    h.Admits args := by
  have hflag : ∀ (flag : Flag) (parameters : List (String × Bool)),
      (∀ p ∈ (flag.key, false) :: parameters, p.2 = true ∨ args.contains p.1 = true) →
      args.hasFlag flag = true := fun flag _ hrequired =>
    (hrequired (flag.key, false) List.mem_cons_self).resolve_left (by simp)
  cases h with
  | load =>
      obtain ⟨htakes, -⟩ := of_matchSteps_last_run hfit
      exact admits_of_takes_empty htakes (by decide) (by decide) (by simp [flag?]) rfl
  | loadFilter => exact admits_loadFilter hpieces hfit
  | loadDelete =>
      obtain ⟨htakes, hrequired⟩ := of_matchSteps_last_run hfit
      refine admits_of_takes_empty htakes (by decide) (by decide) ?_ rfl
      rintro flag ⟨⟩
      exact hflag _ _ hrequired
  | loadConfigs =>
      obtain ⟨piece, rest, rfl, hname, htakes, -⟩ := of_matchSteps_withId hfit
      exact admits_of_takes_idOnly (hpieces piece List.mem_cons_self) hname htakes (by decide)
        (by simp [flag?])
  | loadNewConfigs =>
      obtain ⟨piece, rest, rfl, hname, htakes, hrequired⟩ := of_matchSteps_withId hfit
      refine admits_of_takes_idOnly (hpieces piece List.mem_cons_self) hname htakes (by decide) ?_
      rintro flag ⟨⟩
      exact hflag _ _ hrequired
  | loadEditConfigs =>
      obtain ⟨piece, rest, rfl, hname, htakes, hrequired⟩ := of_matchSteps_withId hfit
      refine admits_of_takes_idOnly (hpieces piece List.mem_cons_self) hname htakes (by decide) ?_
      rintro flag ⟨⟩
      exact hflag _ _ hrequired

end Handler

/-! ### Resolving -/

section Page

variable {page path : String} {table : RouteTable Handler} {h : Handler} {args : RouteArgs}

/-- What a rule makes of a path: the words of the page are cut off and the handler's steps have to
fit the pieces behind them. -/
theorem match?_pageRule (page path : String) (h : Handler) :
    RouteRule.match? path (h.pageRule page) =
      ((behind (Handler.pageWords page) (pathPieces path)).bind
        (matchSteps h.steps .empty)).map (h, ·) := by
  rw [RouteRule.match?, RoutePattern.match?, Handler.pageRule, Step.ofSegments_literals,
    matchSteps_literals]
  rfl

/-- A path resolves to a handler and arguments exactly when the handler's steps fit the pieces
behind the words of the page. The order of the rules plays no part. -/
theorem resolve_eq_ok_iff_of_page (hpage : ':' ∉ page.toList)
    (htable : pageTable page = .ok table) :
    table.resolve path = .ok (h, args) ↔
      ∃ rest, behind (Handler.pageWords page) (pathPieces path) = some rest ∧
        matchSteps h.steps .empty rest = some args := by
  rw [pageTable_eq hpage] at htable
  obtain rfl := Except.ok.inj htable
  rw [RouteTable.resolve_eq_ok_iff]
  constructor
  · intro hfind
    obtain ⟨rule, hrule, hmatch⟩ := List.exists_of_findSome?_eq_some hfind
    obtain ⟨h', -, rfl⟩ := List.mem_map.1 hrule
    rw [match?_pageRule] at hmatch
    obtain ⟨a, hbind, heq⟩ := Option.map_eq_some_iff.1 hmatch
    obtain ⟨rest, hrest, hsteps⟩ := Option.bind_eq_some_iff.1 hbind
    obtain ⟨rfl, rfl⟩ := Prod.mk.inj heq
    exact ⟨rest, hrest, hsteps⟩
  · rintro ⟨rest, hrest, hsteps⟩
    have hmatch : RouteRule.match? path (h.pageRule page) = some (h, args) := by
      rw [match?_pageRule, hrest, Option.bind_some, hsteps, Option.map_some]
    cases hfind : (Handler.all.map (Handler.pageRule page)).findSome? (RouteRule.match? path) with
    | none =>
        have hnone := List.findSome?_eq_none_iff.1 hfind (h.pageRule page)
          (List.mem_map_of_mem h.mem_all)
        simp [hmatch] at hnone
    | some route =>
        obtain ⟨h', args'⟩ := route
        obtain ⟨rule, hrule, hmatch'⟩ := List.exists_of_findSome?_eq_some hfind
        obtain ⟨h'', -, rfl⟩ := List.mem_map.1 hrule
        rw [match?_pageRule, hrest, Option.bind_some] at hmatch'
        obtain ⟨a, hsteps', heq⟩ := Option.map_eq_some_iff.1 hmatch'
        obtain ⟨rfl, rfl⟩ := Prod.mk.inj heq
        obtain rfl := Handler.eq_of_matchSteps hsteps hsteps'
        rw [hsteps] at hsteps'
        obtain rfl := Option.some.inj hsteps'
        rfl

/-- What is known of the arguments that a path of a page resolves to. -/
theorem admits_of_resolve (hpage : ':' ∉ page.toList) (htable : pageTable page = .ok table)
    (hresolve : table.resolve path = .ok (h, args)) : h.Admits args := by
  obtain ⟨rest, hrest, hsteps⟩ := (resolve_eq_ok_iff_of_page hpage htable).1 hresolve
  refine Handler.admits_of_matchSteps (fun p hp => ?_) hsteps
  exact (of_mem_pathPieces (mem_of_mem_behind hrest hp)).1

end Page

end ConfigBrowser

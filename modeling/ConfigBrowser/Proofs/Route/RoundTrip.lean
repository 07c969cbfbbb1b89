import ConfigBrowser.Proofs.Route.Resolution

/-!
# Writing Paths and Resolving Them

The path that leads to a handler, written out, and what it resolves to. A path comes back to the
handler it was written for, with the arguments that the handler's pattern names, as long as its id
does not have the form `key:value`. A path with such an id does not come back.

## Main results

* `hash_eq_ok_iff`: when there is a path to a handler, and which one it is.
* `resolve_of_hash`: a path resolves to the handler it was written for.
* `resolve_hash_iff_not_ambiguous`: when a path comes back to what it was written from.
* `resolve_of_hash_new`: the path to a new entity with an id of the form `key:value` resolves to
  nothing.
-/

namespace ConfigBrowser

open Route

/-! ### Arguments of a handler -/

/-- What filtering does to look-up. -/
theorem SortedMap.get?_filter {κ α : Type} [Ord κ] [DecidableEq κ] [Std.TransOrd κ]
    [Std.LawfulEqOrd κ] (m : SortedMap κ α) (p : κ → α → Bool) (k : κ) :
    (m.filter p).get? k = (m.get? k).filter (p k) := by
  refine Option.ext fun v => ?_
  rw [← mem_entries_iff, Option.filter_eq_some_iff, ← mem_entries_iff]
  exact List.mem_filter

namespace RouteArgs

/-- The arguments with an argument set if there is a value for it. -/
def setIf (args : RouteArgs) (key : String) : Option String → RouteArgs
  | some value => args.set key value
  | none => args

/-- An argument that may be set has the new value if there is one, and all others stay. -/
theorem get?_setIf (args : RouteArgs) (key k : String) (value : Option String) :
    (args.setIf key value).get? k = if k = key then value.or (args.get? k) else args.get? k := by
  cases value with
  | none => simp [setIf]
  | some value => rw [setIf, get?_set]; rfl

/-- An id of the form `key:value` is not empty. -/
theorem id?_of_isNamedForm {args : RouteArgs} {id : String} (hget : args.get? idKey = some id)
    (hform : IsNamedForm id.toList) : args.id? = some id := by
  refine Option.filter_eq_some_iff.2 ⟨hget, ?_⟩
  rw [decide_eq_true_eq]
  rintro rfl
  obtain ⟨key, value, -, hcolon⟩ := hform
  simp at hcolon

end RouteArgs

namespace Handler

/-- The arguments that a handler's path carries: those that its pattern names, without an empty
id, and with the flag it requires as an empty argument. -/
def canonical (h : Handler) (args : RouteArgs) : RouteArgs :=
  let kept : RouteArgs := args.filter fun key value =>
    h.keys.contains key && (key ≠ RouteArgs.idKey || value ≠ "")
  match h.flag? with
  | some flag => RouteArgs.set kept flag.key ""
  | none => kept

/-- Are all the arguments there that a path to the handler needs? -/
structure Renders (h : Handler) (args : RouteArgs) : Prop where
  flag : ∀ flag, h.flag? = some flag → args.hasFlag flag = true
  id : h.requiresId = true → args.id?.isSome = true

/-- Has the id that the handler's path carries the form `key:value`? Its piece then reads as a named
parameter. -/
def Ambiguous (h : Handler) (args : RouteArgs) : Prop :=
  RouteArgs.idKey ∈ h.keys ∧ ∃ id, args.get? RouteArgs.idKey = some id ∧ IsNamedForm id.toList

instance (h : Handler) (args : RouteArgs) : Decidable (h.Ambiguous args) :=
  inferInstanceAs (Decidable (_ ∧ ∃ id ∈ args.get? RouteArgs.idKey, IsNamedForm id.toList))

/-! ### Pieces of a handler's path -/

/-- A named argument as a piece of a path. -/
def namedPiece (key value : String) : List Char := key.toList ++ ':' :: encode value.toList

/-- An optional named argument as pieces of a path. -/
def namedPieces (key : String) (value : Option String) : List (List Char) :=
  value.toList.map (namedPiece key)

/-- The name and the type as pieces of a path. -/
def listPieces (args : RouteArgs) : List (List Char) :=
  namedPieces RouteArgs.nameKey args.name? ++ namedPieces RouteArgs.typeKey args.type?

/-- The id as pieces of a path. -/
def idPieces (args : RouteArgs) : List (List Char) :=
  args.id?.toList.map fun id => encode id.toList

/-- A flag as a piece of a path. -/
def flagPiece (flag : Flag) : List Char := namedPiece flag.key ""

/-- The pieces of a handler's path behind the words of the page. -/
def pieces (args : RouteArgs) : Handler → List (List Char)
  | load => listPieces args
  | loadFilter => flagPiece .filter :: (idPieces args ++ listPieces args)
  | loadDelete => flagPiece .deleted :: listPieces args
  | loadConfigs => idPieces args ++ listPieces args
  | loadNewConfigs => idPieces args ++ flagPiece .new :: listPieces args
  | loadEditConfigs => idPieces args ++ flagPiece .edit :: listPieces args

/-- The path that leads to a handler on a page. -/
def path (page : String) (h : Handler) (args : RouteArgs) : String :=
  String.ofList (['/'].intercalate ((pageWords page).map encode ++ h.pieces args))

end Handler

/-! ### Rendering -/

namespace RoutePattern

variable {rule : String} {args : RouteArgs} {segments : List Segment}

/-- Words are written out in front of what follows them. -/
theorem renderSegments_literals (words : List (List Char)) :
    renderSegments rule args
        (words.map (fun w => Segment.literal (String.ofList w)) ++ segments) =
      (renderSegments rule args segments).map (words.map encode ++ ·) := by
  induction words with
  | nil => cases h : renderSegments rule args segments <;> simp [h, Except.map]
  | cons word words ih =>
      rw [List.map_cons, List.cons_append, renderSegments, renderSegment, String.toList_ofList]
      simp only [ih]
      cases renderSegments rule args segments <;> rfl

/-- A segment whose piece is known is written in front of what follows it. -/
theorem renderSegments_cons_ok {segment : Segment} {piece : Option (List Char)}
    (h : renderSegment rule args segment = .ok piece) :
    renderSegments rule args (segment :: segments) =
      (renderSegments rule args segments).map (piece.toList ++ ·) := by
  rw [renderSegments, h]

/-- The name and the type never fail to be written. -/
theorem renderSegments_listSegments (rule : String) (args : RouteArgs) :
    renderSegments rule args Handler.listSegments = .ok (Handler.listPieces args) := by
  have hnamed : ∀ key : String, renderSegment rule args (.named key true) =
      .ok ((args.get? key).map (Handler.namedPiece key)) := by
    intro key
    rw [renderSegment]
    cases args.get? key <;> rfl
  rw [Handler.listSegments, renderSegments_cons_ok (hnamed _), renderSegments_cons_ok (hnamed _),
    renderSegments, Handler.listPieces, Handler.namedPieces, Handler.namedPieces]
  rw [RouteArgs.name?, RouteArgs.type?]
  cases args.get? RouteArgs.nameKey <;> cases args.get? RouteArgs.typeKey <;> rfl

/-- A flag is written without its value. -/
theorem renderSegment_flag (rule : String) (args : RouteArgs) (flag : Flag) :
    renderSegment rule args (.named flag.key false) =
      if args.hasFlag flag then .ok (some (Handler.flagPiece flag))
      else .error (.missingArgument rule flag.key) := by
  rw [renderSegment, RouteArgs.hasFlag, SortedMap.contains]
  cases args.get? flag.key <;> rfl

/-- An empty id counts as none. -/
theorem renderSegment_id (rule : String) (args : RouteArgs) (optional : Bool) :
    renderSegment rule args (.positional RouteArgs.idKey optional) =
      match args.id? with
      | some id => .ok (some (encode id.toList))
      | none => if optional then .ok none else .error (.missingArgument rule RouteArgs.idKey) := by
  have hget : (args.get? RouteArgs.idKey).filter (· ≠ "") = args.id? := rfl
  cases hid : args.id? <;> simp only [renderSegment, hget, hid]

/-- A handler's segments are written when all the arguments they need are there. -/
theorem renderSegments_segments (rule : String) {h : Handler} {args : RouteArgs}
    (hrenders : h.Renders args) :
    renderSegments rule args h.segments = .ok (h.pieces args) := by
  have hid : h.requiresId = true → ∃ id, args.id? = some id := fun hreq =>
    Option.isSome_iff_exists.1 (hrenders.id hreq)
  cases h with
  | load => exact renderSegments_listSegments rule args
  | loadFilter =>
      have hflag := hrenders.flag .filter rfl
      simp only [Handler.segments, renderSegments, renderSegment_flag, renderSegment_id, hflag,
        renderSegments_listSegments, Handler.pieces, Handler.idPieces]
      cases args.id? <;> rfl
  | loadDelete =>
      have hflag := hrenders.flag .deleted rfl
      simp only [Handler.segments, renderSegments, renderSegment_flag, hflag,
        renderSegments_listSegments, Handler.pieces]
      rfl
  | loadConfigs =>
      obtain ⟨id, hid⟩ := hid rfl
      simp only [Handler.segments, renderSegments, renderSegment_id, hid,
        renderSegments_listSegments, Handler.pieces, Handler.idPieces]
      rfl
  | loadNewConfigs =>
      obtain ⟨id, hid⟩ := hid rfl
      have hflag := hrenders.flag .new rfl
      simp only [Handler.segments, renderSegments, renderSegment_flag, renderSegment_id, hid, hflag,
        renderSegments_listSegments, Handler.pieces, Handler.idPieces]
      rfl
  | loadEditConfigs =>
      obtain ⟨id, hid⟩ := hid rfl
      have hflag := hrenders.flag .edit rfl
      simp only [Handler.segments, renderSegments, renderSegment_flag, renderSegment_id, hid, hflag,
        renderSegments_listSegments, Handler.pieces, Handler.idPieces]
      rfl

/-- When segments are written, each of them is. -/
theorem exists_renderSegment_of_mem {pieces : List (List Char)}
    (h : renderSegments rule args segments = .ok pieces) {segment : Segment}
    (hmem : segment ∈ segments) : ∃ piece, renderSegment rule args segment = .ok piece := by
  induction segments generalizing pieces with
  | nil => simp at hmem
  | cons first rest ih =>
      cases hfirst : renderSegment rule args first with
      | error e => simp [renderSegments, hfirst] at h
      | ok piece =>
          rw [renderSegments, hfirst] at h
          rcases List.mem_cons.1 hmem with rfl | hmem
          · exact ⟨piece, hfirst⟩
          · cases hrest : renderSegments rule args rest with
            | error e => simp [hrest, Except.map] at h
            | ok restPieces => exact ih hrest hmem

/-- When a handler's segments are written, all the arguments that they need are there. -/
theorem renders_of_renderSegments {h : Handler} {pieces : List (List Char)}
    (hok : renderSegments rule args h.segments = .ok pieces) : h.Renders args where
  flag flag hflag := by
    have hmem : Segment.named flag.key false ∈ h.segments := by
      cases h <;> simp_all [Handler.flag?, Handler.segments]
    obtain ⟨piece, hpiece⟩ := exists_renderSegment_of_mem hok hmem
    by_contra hmissing
    simp [renderSegment_flag, hmissing] at hpiece
  id hrequires := by
    have hmem : Segment.positional RouteArgs.idKey false ∈ h.segments := by
      cases h <;> simp_all [Handler.requiresId, Handler.segments]
    obtain ⟨piece, hpiece⟩ := exists_renderSegment_of_mem hok hmem
    rw [renderSegment_id] at hpiece
    cases hid : args.id? with
    | some id => rfl
    | none => simp [hid] at hpiece

end RoutePattern

section Page

variable {page path : String} {table : RouteTable Handler} {h : Handler} {args : RouteArgs}

/-- The rule that leads to a handler is the handler's own. -/
theorem rule_eq_of_page (hpage : ':' ∉ page.toList) (htable : pageTable page = .ok table)
    (h : Handler) : table.rule h = .ok (h.pageRule page) := by
  rw [pageTable_eq hpage] at htable
  obtain rfl := Except.ok.inj htable
  cases h <;> rfl

/-- The path to a handler has the words of the page in front of what the handler's own segments
become. -/
theorem hash_eq_of_page (hpage : ':' ∉ page.toList) (htable : pageTable page = .ok table) :
    table.hash h args =
      ((RoutePattern.renderSegments h.name args h.segments).map
        ((Handler.pageWords page).map encode ++ ·)).map
          fun pieces => String.ofList (['/'].intercalate pieces) := by
  rw [RouteTable.hash, rule_eq_of_page hpage htable, ← RoutePattern.renderSegments_literals]
  rfl

/-- There is a path to a handler exactly when the arguments that it needs are there, and it
consists of the words of the page and the pieces of the handler. -/
theorem hash_eq_ok_iff (hpage : ':' ∉ page.toList) (htable : pageTable page = .ok table) :
    table.hash h args = .ok path ↔ h.Renders args ∧ path = h.path page args := by
  rw [hash_eq_of_page hpage htable]
  constructor
  · intro hok
    cases hpieces : RoutePattern.renderSegments h.name args h.segments with
    | error e => simp [hpieces, Except.map] at hok
    | ok pieces =>
        have hrenders := RoutePattern.renders_of_renderSegments hpieces
        rw [RoutePattern.renderSegments_segments _ hrenders] at hok
        exact ⟨hrenders, (Except.ok.inj hok).symm⟩
  · rintro ⟨hrenders, rfl⟩
    rw [RoutePattern.renderSegments_segments _ hrenders]
    rfl

end Page

/-! ### Matching what was written -/

namespace Handler

/-- A named piece splits into its key and its escaped value. -/
theorem splitNamed_namedPiece {key : String} (hkey : isKey key.toList = true) (value : String) :
    splitNamed (namedPiece key value) = some (key, encode value.toList) := by
  rw [namedPiece, splitNamed_of_isKey hkey, String.ofList_toList]

/-- A run takes the piece of a named argument that is not bound yet. -/
theorem takeNamed_namedPiece {parameters : List (String × Bool)} {args : RouteArgs} {key : String}
    (hkey : isKey key.toList = true) (hdeclared : key ∈ parameters.map Prod.fst)
    (hfresh : args.get? key = none) (value : String) (rest : List (List Char)) :
    takeNamed parameters args (namedPiece key value :: rest) =
      takeNamed parameters (args.set key value) rest := by
  rw [takeNamed_cons_of_splitNamed (splitNamed_namedPiece hkey value) hdeclared
    (RouteArgs.contains_eq_false_iff.2 hfresh), decode_encode, String.ofList_toList]

/-- A run takes the pieces of an optional named argument that is not bound yet. -/
theorem takeNamed_namedPieces {parameters : List (String × Bool)} {args : RouteArgs} {key : String}
    (hkey : isKey key.toList = true) (hdeclared : key ∈ parameters.map Prod.fst)
    (hfresh : args.get? key = none) (value : Option String) (rest : List (List Char)) :
    takeNamed parameters args (namedPieces key value ++ rest) =
      takeNamed parameters (args.setIf key value) rest := by
  cases value with
  | none => rfl
  | some value => exact takeNamed_namedPiece hkey hdeclared hfresh value rest

/-- The arguments with the name and the type of other arguments. -/
def withList (start args : RouteArgs) : RouteArgs :=
  (start.setIf RouteArgs.nameKey args.name?).setIf RouteArgs.typeKey args.type?

/-- A run that names the list's parameters takes the list's pieces. -/
theorem takeNamed_listPieces {parameters : List (String × Bool)} {start args : RouteArgs}
    (hdeclared : ∀ p ∈ listParameters, p.1 ∈ parameters.map Prod.fst)
    (hname : start.get? RouteArgs.nameKey = none) (htype : start.get? RouteArgs.typeKey = none) :
    takeNamed parameters start (listPieces args) = (withList start args, []) := by
  have hstart : (start.setIf RouteArgs.nameKey args.name?).get? RouteArgs.typeKey = none := by
    rw [RouteArgs.get?_setIf, if_neg (by decide), htype]
  have hdeclaredName := hdeclared (RouteArgs.nameKey, true) (by simp [listParameters])
  have hdeclaredType := hdeclared (RouteArgs.typeKey, true) (by simp [listParameters])
  rw [listPieces, takeNamed_namedPieces (by decide) hdeclaredName hname,
    ← List.append_nil (namedPieces RouteArgs.typeKey args.type?),
    takeNamed_namedPieces (by decide) hdeclaredType hstart]
  rfl

/-- The list's parameters at the end of a pattern fit the list's pieces. -/
theorem matchSteps_listPieces {start args : RouteArgs}
    (hname : start.get? RouteArgs.nameKey = none) (htype : start.get? RouteArgs.typeKey = none) :
    matchSteps [.run listParameters] start (listPieces args) = some (withList start args) := by
  rw [matchSteps, takeNamed_listPieces (fun p hp => List.mem_map_of_mem hp) hname htype]
  rfl

/-- A flag and the list's parameters at the end of a pattern fit the flag's piece and the list's
pieces. -/
theorem matchSteps_flagPiece {start args : RouteArgs} {flag : Flag}
    (hflag : start.get? flag.key = none) (hname : start.get? RouteArgs.nameKey = none)
    (htype : start.get? RouteArgs.typeKey = none) :
    matchSteps [.run ((flag.key, false) :: listParameters)] start
      (flagPiece flag :: listPieces args) = some (withList (start.set flag.key "") args) := by
  have hkey : isKey flag.key.toList = true := by cases flag <;> decide
  have hother : RouteArgs.nameKey ≠ flag.key ∧ RouteArgs.typeKey ≠ flag.key := by
    cases flag <;> decide
  have htaken : takeNamed ((flag.key, false) :: listParameters) start
      (flagPiece flag :: listPieces args) = (withList (start.set flag.key "") args, []) := by
    rw [flagPiece, takeNamed_namedPiece hkey List.mem_cons_self hflag]
    refine takeNamed_listPieces (fun p hp => List.mem_cons_of_mem _ (List.mem_map_of_mem hp)) ?_ ?_
    · rw [RouteArgs.get?_set, if_neg hother.1, hname]
    · rw [RouteArgs.get?_set, if_neg hother.2, htype]
  have hbound : (withList (start.set flag.key "") args).contains flag.key = true := by
    rw [SortedMap.contains, withList, RouteArgs.get?_setIf, if_neg hother.2.symm,
      RouteArgs.get?_setIf, if_neg hother.1.symm, RouteArgs.get?_set, if_pos rfl]
    rfl
  rw [matchSteps, htaken]
  simp only [List.all_cons, hbound, Bool.or_true, Bool.true_and]
  rfl

/-- A run leaves pieces that begin with none of its parameters. -/
theorem takeNamed_of_head {parameters : List (String × Bool)} {args : RouteArgs}
    {pieces : List (List Char)}
    (h : ∀ piece ∈ pieces.head?, ∀ key ∈ parameters.map Prod.fst, nameOf piece ≠ some key) :
    takeNamed parameters args pieces = (args, pieces) := by
  cases pieces with
  | nil => rfl
  | cons piece rest =>
      rw [takeNamed]
      split
      · next key value hs =>
        have hany : parameters.any (·.1 = key) = false := by
          rw [List.any_eq_false]
          intro p hp hkey
          refine h piece rfl key ?_ (nameOf_eq_some_of_splitNamed hs)
          exact List.mem_map.2 ⟨p, hp, by simpa using hkey⟩
        rw [hany]
        rfl
      · rfl

/-- The name of a piece that was written for a named argument. -/
theorem nameOf_namedPiece {key : String} (hkey : isKey key.toList = true) (value : String) :
    nameOf (namedPiece key value) = some key :=
  nameOf_eq_some_of_splitNamed (splitNamed_namedPiece hkey value)

/-- The list's pieces are named after its parameters. -/
theorem nameOf_of_mem_listPieces {args : RouteArgs} {piece : List Char}
    (h : piece ∈ listPieces args) :
    ∃ key ∈ listParameters.map Prod.fst, nameOf piece = some key := by
  rcases List.mem_append.1 h with h | h
  · obtain ⟨name, -, rfl⟩ := List.mem_map.1 h
    exact ⟨_, by decide, nameOf_namedPiece (by decide) name⟩
  · obtain ⟨type, -, rfl⟩ := List.mem_map.1 h
    exact ⟨_, by decide, nameOf_namedPiece (by decide) type⟩

section Id

variable {args start : RouteArgs} (hid : ∀ id, args.id? = some id → ¬ IsNamedForm id.toList)
include hid

/-- The piece of an id names nothing, unless the id has the form `key:value`. -/
theorem splitNamed_encode_id {id : String} (hargs : args.id? = some id) :
    (splitNamed (encode id.toList)).isNone = true := by
  rw [Option.isNone_iff_eq_none, splitNamed_eq_none_iff, isNamedForm_encode]
  exact hid id hargs

/-- A positional id takes the piece of an id. -/
theorem matchSteps_id {id : String} (hargs : args.id? = some id) (optional : Bool)
    (steps : List Step) (rest : List (List Char)) :
    matchSteps (.positional RouteArgs.idKey optional :: steps) start (idPieces args ++ rest) =
      matchSteps steps (start.set RouteArgs.idKey id) rest := by
  rw [idPieces, hargs, Option.toList_some, List.map_cons, List.map_nil, List.singleton_append,
    matchSteps, if_pos (splitNamed_encode_id hid hargs), decode_encode, String.ofList_toList]

/-- An optional id takes the piece of an id, if there is one, and leaves the list's pieces. -/
theorem matchSteps_idPieces (steps : List Step) :
    matchSteps (.positional RouteArgs.idKey true :: steps) start
        (idPieces args ++ listPieces args) =
      matchSteps steps (start.setIf RouteArgs.idKey args.id?) (listPieces args) := by
  cases hargs : args.id? with
  | some id => exact matchSteps_id hid hargs true steps _
  | none =>
      rw [idPieces, hargs]
      cases hlist : listPieces args with
      | nil => rfl
      | cons piece rest =>
          obtain ⟨key, -, hname⟩ := nameOf_of_mem_listPieces (hlist ▸ List.mem_cons_self)
          have hsplit : (splitNamed piece).isNone = false := by
            rw [Bool.eq_false_iff, Ne, Option.isNone_iff_eq_none]
            intro hnone
            simp [nameOf, hnone] at hname
          change matchSteps _ start (piece :: rest) = _
          rw [matchSteps, hsplit]
          rfl

/-- The run of the filter flag takes its piece and no other. -/
theorem takeNamed_filterPiece :
    takeNamed [(Flag.filter.key, false)] .empty
        (flagPiece .filter :: (idPieces args ++ listPieces args)) =
      (RouteArgs.set .empty Flag.filter.key "", idPieces args ++ listPieces args) := by
  rw [flagPiece, takeNamed_namedPiece (by decide) List.mem_cons_self rfl]
  refine takeNamed_of_head fun piece hpiece key hkey hname => ?_
  obtain rfl : key = Flag.filter.key := by simpa using hkey
  rcases List.mem_append.1 (List.mem_of_mem_head? hpiece) with hmem | hmem
  · obtain ⟨id, hargs, rfl⟩ := List.mem_map.1 hmem
    have hnone := splitNamed_encode_id hid (Option.mem_toList.1 hargs)
    simp [nameOf, Option.isNone_iff_eq_none.1 hnone] at hname
  · obtain ⟨key, hkey, hname'⟩ := nameOf_of_mem_listPieces hmem
    obtain rfl : key = Flag.filter.key := Option.some.inj (hname'.symm.trans hname)
    exact absurd hkey (by decide)

end Id

/-! ### The arguments that come back -/

/-- What the arguments of a handler's path hold. -/
theorem get?_canonical (h : Handler) (args : RouteArgs) (key : String) :
    (h.canonical args).get? key =
      if h.flag?.map Flag.key = some key then some ""
      else if key ∈ h.keys then (if key = RouteArgs.idKey then args.id? else args.get? key)
      else none := by
  have hkept : SortedMap.get? (args.filter fun key value =>
      h.keys.contains key && (key ≠ RouteArgs.idKey || value ≠ "")) key =
        if key ∈ h.keys then (if key = RouteArgs.idKey then args.id? else args.get? key)
        else none := by
    rw [SortedMap.get?_filter, RouteArgs.id?]
    by_cases hid : key = RouteArgs.idKey
    · subst hid
      by_cases hkey : RouteArgs.idKey ∈ h.keys <;> simp [hkey]
    · by_cases hkey : key ∈ h.keys
      · simp only [List.contains_iff_mem.2 hkey, ne_eq, hid, not_false_eq_true, decide_true,
          Bool.true_or, Bool.and_true, if_pos hkey, if_false]
        cases args.get? key <;> rfl
      · simp [hkey]
  rw [canonical]
  cases hflag : h.flag? with
  | none => simpa using hkept
  | some flag =>
      rw [RouteArgs.get?_set, hkept]
      by_cases hk : key = flag.key
      · simp [hk]
      · rw [if_neg hk, Option.map_some, if_neg fun he => hk (Option.some.inj he).symm]

/-- What the arguments of a handler's path hold besides the name and the type. -/
theorem get?_canonical_of_ne (h : Handler) (args : RouteArgs) {key : String}
    (hname : key ≠ RouteArgs.nameKey) (htype : key ≠ RouteArgs.typeKey) :
    (h.canonical args).get? key =
      if h.flag?.map Flag.key = some key then some ""
      else if key = RouteArgs.idKey ∧ RouteArgs.idKey ∈ h.keys then args.id?
      else none := by
  rw [get?_canonical]
  by_cases hflag : h.flag?.map Flag.key = some key
  · rw [if_pos hflag, if_pos hflag]
  · rw [if_neg hflag, if_neg hflag]
    by_cases hid : key = RouteArgs.idKey
    · subst hid
      simp
    · have hkey : key ∉ h.keys := by
        have hne : ∀ flag, h.flag? = some flag → key ≠ flag.key := fun flag he hk =>
          hflag (by rw [he, hk]; rfl)
        cases h <;>
          simp_all [keys, segments, listSegments, Segment.key?, flag?]
      simp [hid, hkey]

/-- With the name and the type, arguments are those that come back if they hold the rest. -/
theorem withList_eq_canonical {h : Handler} {start args : RouteArgs}
    (hrest : ∀ key, start.get? key =
      if h.flag?.map Flag.key = some key then some ""
      else if key = RouteArgs.idKey ∧ RouteArgs.idKey ∈ h.keys then args.id?
      else none) :
    withList start args = h.canonical args := by
  have hflag : ∀ key ∈ [RouteArgs.nameKey, RouteArgs.typeKey],
      h.flag?.map Flag.key ≠ some key ∧ key ≠ RouteArgs.idKey := by
    cases h <;> decide
  have hlisted : (h.canonical args).get? RouteArgs.nameKey = args.name? ∧
      (h.canonical args).get? RouteArgs.typeKey = args.type? := by
    rw [get?_canonical, get?_canonical]
    cases h <;> exact ⟨rfl, rfl⟩
  have hfresh : ∀ key ∈ [RouteArgs.nameKey, RouteArgs.typeKey], start.get? key = none :=
    fun key hkey => by
      rw [hrest, if_neg (hflag key hkey).1, if_neg fun he => (hflag key hkey).2 he.1]
  refine SortedMap.ext_get? fun key => ?_
  rw [withList, RouteArgs.get?_setIf, RouteArgs.get?_setIf]
  by_cases htype : key = RouteArgs.typeKey
  · subst htype
    rw [if_pos rfl, if_neg (by decide), hfresh _ (by simp), hlisted.2, Option.or_none]
  · by_cases hname : key = RouteArgs.nameKey
    · subst hname
      rw [if_neg htype, if_pos rfl, hfresh _ (by simp), hlisted.1, Option.or_none]
    · rw [if_neg htype, if_neg hname, hrest, get?_canonical_of_ne h args hname htype]

/-- The pieces of a handler fit its own steps, unless the id has the form `key:value`. What they
bind are the arguments that the handler's pattern names. -/
theorem matchSteps_pieces {h : Handler} {args : RouteArgs} (hrenders : h.Renders args)
    (hclear : ¬ h.Ambiguous args) :
    matchSteps h.steps .empty (h.pieces args) = some (h.canonical args) := by
  have hrequired : h.requiresId = true → ∃ id, args.id? = some id := fun hreq =>
    Option.isSome_iff_exists.1 (hrenders.id hreq)
  have hid : RouteArgs.idKey ∈ h.keys → ∀ id, args.id? = some id → ¬ IsNamedForm id.toList :=
    fun hkey id hargs hform => hclear ⟨hkey, id, (Option.filter_eq_some_iff.1 hargs).1, hform⟩
  cases h with
  | load =>
      have hkeys : RouteArgs.idKey ∉ load.keys := by decide
      rw [steps_load, pieces, matchSteps_listPieces rfl rfl]
      refine congrArg some (withList_eq_canonical fun key => ?_)
      simp [flag?, hkeys]
  | loadFilter =>
      have hkeys : RouteArgs.idKey ∈ loadFilter.keys := by decide
      rw [steps_loadFilter, pieces, matchSteps, takeNamed_filterPiece (hid hkeys)]
      have hfresh : ∀ key, key ≠ RouteArgs.idKey → key ≠ Flag.filter.key →
          ((RouteArgs.set .empty Flag.filter.key "").setIf RouteArgs.idKey args.id?).get? key =
            none := fun key hne hflag => by
        rw [RouteArgs.get?_setIf, if_neg hne, RouteArgs.get?_set, if_neg hflag]
        rfl
      change matchSteps _ _ _ = _
      rw [matchSteps_idPieces (hid hkeys), matchSteps_listPieces (hfresh _ (by decide) (by decide))
        (hfresh _ (by decide) (by decide))]
      refine congrArg some (withList_eq_canonical fun key => ?_)
      rw [RouteArgs.get?_setIf, RouteArgs.get?_set]
      by_cases hkey : key = RouteArgs.idKey
      · subst hkey
        have hne : RouteArgs.idKey ≠ Flag.filter.key := by decide
        simp [flag?, hkeys, hne, hne.symm]
      · simp [flag?, hkeys, hkey, eq_comm]
  | loadDelete =>
      have hkeys : RouteArgs.idKey ∉ loadDelete.keys := by decide
      rw [steps_loadDelete, pieces, matchSteps_flagPiece rfl rfl rfl]
      refine congrArg some (withList_eq_canonical fun key => ?_)
      rw [RouteArgs.get?_set]
      simp [flag?, hkeys, eq_comm]
  | loadConfigs =>
      have hkeys : RouteArgs.idKey ∈ loadConfigs.keys := by decide
      obtain ⟨id, hargs⟩ := hrequired rfl
      rw [steps_loadConfigs, pieces, matchSteps_id (hid hkeys) hargs, matchSteps_listPieces rfl rfl]
      refine congrArg some (withList_eq_canonical fun key => ?_)
      rw [RouteArgs.get?_set, hargs]
      simp [flag?, hkeys]
  | loadNewConfigs =>
      have hkeys : RouteArgs.idKey ∈ loadNewConfigs.keys := by decide
      obtain ⟨id, hargs⟩ := hrequired rfl
      rw [steps_loadNewConfigs, pieces, matchSteps_id (hid hkeys) hargs,
        matchSteps_flagPiece rfl rfl rfl]
      refine congrArg some (withList_eq_canonical fun key => ?_)
      rw [RouteArgs.get?_set, RouteArgs.get?_set, hargs]
      simp [flag?, hkeys, eq_comm]
  | loadEditConfigs =>
      have hkeys : RouteArgs.idKey ∈ loadEditConfigs.keys := by decide
      obtain ⟨id, hargs⟩ := hrequired rfl
      rw [steps_loadEditConfigs, pieces, matchSteps_id (hid hkeys) hargs,
        matchSteps_flagPiece rfl rfl rfl]
      refine congrArg some (withList_eq_canonical fun key => ?_)
      rw [RouteArgs.get?_set, RouteArgs.get?_set, hargs]
      simp [flag?, hkeys, eq_comm]

end Handler

/-! ### Resolving what was written -/

/-- A page whose paths can be told from others: its name holds no colon, and it has a word that
does not begin with a hash sign. -/
structure Routable (page : String) : Prop where
  colon : ':' ∉ page.toList
  hash : ∃ c, page.toList.find? (· ≠ '/') = some c ∧ c ≠ '#'

/-- A handler's pieces are not empty and hold no slash. -/
theorem Handler.of_mem_pieces {h : Handler} {args : RouteArgs} {p : List Char}
    (hp : p ∈ h.pieces args) : p ≠ [] ∧ '/' ∉ p := by
  have hnamed : ∀ {key : String} (value : String), isKey key.toList = true →
      namedPiece key value ≠ [] ∧ '/' ∉ namedPiece key value := by
    intro key value hkey
    refine ⟨by simp [namedPiece], fun hmem => ?_⟩
    rcases List.mem_append.1 hmem with hmem | hmem
    · exact absurd (isKeyChar_of_mem hkey hmem) (by decide)
    · rcases List.mem_cons.1 hmem with he | hmem
      · exact absurd he (by decide)
      · exact slash_not_mem_encode _ hmem
  have hflag : ∀ flag : Flag, flagPiece flag ≠ [] ∧ '/' ∉ flagPiece flag := fun flag =>
    hnamed "" (by cases flag <;> decide)
  have hlist : p ∈ listPieces args → p ≠ [] ∧ '/' ∉ p := by
    intro hmem
    rcases List.mem_append.1 hmem with hmem | hmem
    · obtain ⟨name, -, rfl⟩ := List.mem_map.1 hmem
      exact hnamed name (by decide)
    · obtain ⟨type, -, rfl⟩ := List.mem_map.1 hmem
      exact hnamed type (by decide)
  have hid : p ∈ idPieces args → p ≠ [] ∧ '/' ∉ p := by
    intro hmem
    obtain ⟨id, hargs, rfl⟩ := List.mem_map.1 hmem
    obtain ⟨-, hne⟩ := Option.filter_eq_some_iff.1 (Option.mem_toList.1 hargs)
    exact ⟨encode_ne_nil (by simpa using hne), slash_not_mem_encode _⟩
  cases h <;> simp only [pieces, List.mem_cons, List.mem_append] at hp
  case load => exact hlist hp
  case loadFilter => exact hp.elim (fun he => he ▸ hflag _) fun hp => hp.elim hid hlist
  case loadDelete => exact hp.elim (fun he => he ▸ hflag _) hlist
  case loadConfigs => exact hp.elim hid hlist
  case loadNewConfigs => exact hp.elim hid fun hp => hp.elim (fun he => he ▸ hflag _) hlist
  case loadEditConfigs => exact hp.elim hid fun hp => hp.elim (fun he => he ▸ hflag _) hlist

/-- What a path is written from is not empty and holds no slash. -/
theorem of_mem_words_append_pieces {page : String} {h : Handler} {args : RouteArgs} {p : List Char}
    (hp : p ∈ (Handler.pageWords page).map encode ++ h.pieces args) : p ≠ [] ∧ '/' ∉ p := by
  rcases List.mem_append.1 hp with hp | hp
  · obtain ⟨word, hword, rfl⟩ := List.mem_map.1 hp
    exact ⟨encode_ne_nil (of_mem_piecesOf hword).1, slash_not_mem_encode word⟩
  · exact Handler.of_mem_pieces hp

/-- The pieces of a written path are the words of the page and the pieces of the handler. -/
theorem pathPieces_path {page : String} (hpage : Routable page) (h : Handler) (args : RouteArgs) :
    pathPieces (h.path page args) = (Handler.pageWords page).map encode ++ h.pieces args := by
  obtain ⟨c, hfind, hc⟩ := hpage.hash
  obtain ⟨w, ws, hwords⟩ := exists_piecesOf_of_find hfind
  obtain ⟨d, v, hd, hencode⟩ : ∃ d v, d ≠ '#' ∧ encode (c :: w) = d :: v := by
    by_cases hplain : c = '%' ∨ c = '/'
    · rcases hplain with rfl | rfl
      · exact ⟨_, _, by decide, encode_percent_cons w⟩
      · exact ⟨_, _, by decide, encode_slash_cons w⟩
    · rw [not_or] at hplain
      exact ⟨c, encode w, hc, encode_cons_of_ne hplain.1 hplain.2 w⟩
  have hcons : (Handler.pageWords page).map encode ++ h.pieces args =
      (d :: v) :: (ws.map encode ++ h.pieces args) := by
    rw [Handler.pageWords, hwords, List.map_cons, hencode, List.cons_append]
  rw [Handler.path, hcons]
  exact pathPieces_join hd (hcons ▸ fun p hp => of_mem_words_append_pieces hp)

section Page

variable {page path : String} {table : RouteTable Handler} {h : Handler} {args : RouteArgs}

/-- A path resolves to the handler that it was written for, with the arguments that its pattern
names, unless the id that it carries has the form `key:value`. -/
theorem resolve_of_hash_of_not_ambiguous (hpage : Routable page)
    (htable : pageTable page = .ok table) (hhash : table.hash h args = .ok path)
    (hclear : ¬ h.Ambiguous args) : table.resolve path = .ok (h, h.canonical args) := by
  obtain ⟨hrenders, rfl⟩ := (hash_eq_ok_iff hpage.colon htable).1 hhash
  rw [resolve_eq_ok_iff_of_page hpage.colon htable, pathPieces_path hpage]
  exact ⟨_, behind_encode _ _, Handler.matchSteps_pieces hrenders hclear⟩

/-- A path resolves to the handler that it was written for when no id has the form `key:value`. -/
theorem resolve_of_hash (hpage : Routable page) (htable : pageTable page = .ok table)
    (hhash : table.hash h args = .ok path)
    (hid : ∀ id, args.id? = some id → ¬ IsNamedForm id.toList) :
    table.resolve path = .ok (h, h.canonical args) := by
  refine resolve_of_hash_of_not_ambiguous hpage htable hhash ?_
  rintro ⟨-, id, hget, hform⟩
  exact hid id (RouteArgs.id?_of_isNamedForm hget hform) hform

/-- An id of the form `key:value` never comes back as an id: a positional piece is none of that
form. -/
theorem resolve_ne_of_ambiguous (hpage : ':' ∉ page.toList) (htable : pageTable page = .ok table)
    (hambiguous : h.Ambiguous args) (path : String) :
    table.resolve path ≠ .ok (h, h.canonical args) := by
  intro hresolve
  obtain ⟨hkeys, id, hget, hform⟩ := hambiguous
  have hback : (h.canonical args).get? RouteArgs.idKey = some id := by
    have hflag : h.flag?.map Flag.key ≠ some RouteArgs.idKey := by cases h <;> decide
    rw [Handler.get?_canonical, if_neg hflag, if_pos hkeys, if_pos rfl]
    exact RouteArgs.id?_of_isNamedForm hget hform
  exact ((admits_of_resolve hpage htable hresolve).id id hback).2 hform

/-- On a page whose paths can be told from others, a path resolves to the handler and the arguments
that it was written from exactly when the id that it carries does not have the form `key:value`. -/
theorem resolve_hash_iff_not_ambiguous (hpage : Routable page) :
    ∃ table, pageTable page = .ok table ∧ ∀ h args path, table.hash h args = .ok path →
      (table.resolve path = .ok (h, h.canonical args) ↔ ¬ h.Ambiguous args) := by
  refine ⟨_, pageTable_eq hpage.colon, fun h args path hhash => ⟨fun hresolve hambiguous => ?_, ?_⟩⟩
  · exact resolve_ne_of_ambiguous hpage.colon (pageTable_eq hpage.colon) hambiguous path hresolve
  · exact resolve_of_hash_of_not_ambiguous hpage (pageTable_eq hpage.colon) hhash

/-- On the page `configs` the filter's path for the id `EUR/USD` comes back with its arguments, and
the one for the id `name:x` does not. -/
theorem resolve_configs_filter : ∃ table, pageTable "configs" = .ok table ∧
    (∃ args path, args = (RouteArgs.withFlag .empty .filter).set RouteArgs.idKey "EUR/USD" ∧
      path = "configs/filter:/EUR%2FUSD" ∧ table.hash .loadFilter args = .ok path ∧
      table.resolve path = .ok (.loadFilter, Handler.loadFilter.canonical args)) ∧
    ∃ args path, args = (RouteArgs.withFlag .empty .filter).set RouteArgs.idKey "name:x" ∧
      path = "configs/filter:/name:x" ∧ table.hash .loadFilter args = .ok path ∧
      table.resolve path ≠ .ok (.loadFilter, Handler.loadFilter.canonical args) := by
  have hpage : Routable "configs" := ⟨by decide, 'c', by decide, by decide⟩
  obtain ⟨table, htable, hback⟩ := resolve_hash_iff_not_ambiguous hpage
  have hhash : ∀ id path : String,
      path = Handler.loadFilter.path "configs"
        ((RouteArgs.withFlag .empty .filter).set RouteArgs.idKey id) →
      table.hash .loadFilter ((RouteArgs.withFlag .empty .filter).set RouteArgs.idKey id) =
        .ok path := by
    intro id path hpath
    refine (hash_eq_ok_iff hpage.colon htable).2 ⟨⟨?_, by simp [Handler.requiresId]⟩, hpath⟩
    rintro flag ⟨⟩
    rfl
  refine ⟨table, htable, ⟨_, _, rfl, rfl, ?_⟩, ⟨_, _, rfl, rfl, ?_⟩⟩
  · have hpath := hhash "EUR/USD" "configs/filter:/EUR%2FUSD" (by decide +kernel)
    exact ⟨hpath, (hback _ _ _ hpath).2 (by decide)⟩
  · have hpath := hhash "name:x" "configs/filter:/name:x" (by decide +kernel)
    exact ⟨hpath, fun hresolve => (hback _ _ _ hpath).1 hresolve (by decide)⟩

/-- The path of a new entity whose id has the form `key:value` resolves to nothing: the id reads as
a named parameter. -/
theorem resolve_of_hash_new (hpage : Routable page) (htable : pageTable page = .ok table)
    (hhash : table.hash .loadNewConfigs args = .ok path) {id : String} (hargs : args.id? = some id)
    (hid : IsNamedForm id.toList) : table.resolve path = .error (.route path) := by
  obtain ⟨-, rfl⟩ := (hash_eq_ok_iff hpage.colon htable).1 hhash
  cases hresolve : table.resolve (Handler.loadNewConfigs.path page args) with
  | error e =>
      rw [RouteTable.resolve] at hresolve
      split at hresolve
      · simp at hresolve
      · exact hresolve.symm
  | ok route =>
      exfalso
      obtain ⟨h, bound⟩ := route
      obtain ⟨rest, hrest, hfit⟩ := (resolve_eq_ok_iff_of_page hpage.colon htable).1 hresolve
      rw [pathPieces_path hpage, behind_encode, Handler.pieces, Handler.idPieces, hargs] at hrest
      obtain rfl := Option.some.inj hrest
      have hnew : some Flag.new.key ∈
          (Handler.flagPiece .new :: Handler.listPieces args).map nameOf :=
        List.mem_cons.2 (.inl (Handler.nameOf_namedPiece (by decide) "").symm)
      obtain ⟨parameters, hrun, hkey⟩ :=
        exists_run_of_matchSteps h.literal_not_mem_steps hfit (List.mem_cons_of_mem _ hnew)
      obtain rfl : h = .loadNewConfigs := by
        have hmem := Handler.mem_keys_of_run_mem_steps hrun hkey
        cases h <;> first | rfl | exact absurd hmem (by decide)
      obtain ⟨piece, pieces, hpieces, hname, -⟩ := Handler.of_matchSteps_withId hfit
      obtain ⟨rfl, -⟩ := List.cons.inj hpieces
      exact nameOf_eq_none_iff.1 hname (isNamedForm_encode.2 hid)

end Page

end ConfigBrowser

import ConfigBrowser.Proofs.Route.RoundTrip

/-!
# How Much a Path Says

A path binds no more arguments than it has pieces, and it has no more pieces than there were
arguments to write, besides the words of the page. So whatever a written path resolves to, its
arguments are no more than those it was written with. That needs no page to write its paths
unambiguously: a hash sign in front may get lost, or an id be taken for a word of the page, and
still nothing is gained.

## Main results

* `size_le_of_resolve_hash`: what a written path resolves to has no more arguments than it was
  written with.
* `Handler.Admits.size_le`: a resolved path has at most four arguments.
-/

namespace ConfigBrowser

open Route

namespace Route

/-! ### Pieces -/

/-- Dropping characters from the front of a text leaves no more pieces. -/
theorem length_piecesOf_dropWhile_le (p : Char → Bool) (s : List Char) :
    (piecesOf (s.dropWhile p)).length ≤ (piecesOf s).length := by
  induction s with
  | nil => exact le_rfl
  | cons c rest ih =>
      rw [List.dropWhile_cons]
      split
      · refine ih.trans ?_
        by_cases hc : c = '/'
        · rw [hc, piecesOf_slash_cons]
        · obtain ⟨piece, pieces, hrest, hcons⟩ := Text.splitOn_cons_of_ne hc rest
          rw [piecesOf, piecesOf, hrest, hcons]
          simp only [List.filter_cons]
          split <;> simp
      · exact le_rfl

/-- What is behind the words of a path are the other pieces. -/
theorem length_of_behind {words pieces rest : List (List Char)}
    (h : behind words pieces = some rest) : pieces.length = words.length + rest.length := by
  induction words generalizing pieces with
  | nil =>
      obtain rfl : pieces = rest := Option.some.inj h
      exact (Nat.zero_add _).symm
  | cons word words ih =>
      cases pieces with
      | nil => simp [behind] at h
      | cons piece pieces =>
          rw [behind] at h
          split at h
          · rw [List.length_cons, List.length_cons, ih h]
            omega
          · simp at h

/-! ### Arguments bound -/

/-- Each named argument takes a piece, so that arguments and pieces together do not grow. -/
theorem size_takeNamed_le (parameters : List (String × Bool)) (args : RouteArgs)
    (pieces : List (List Char)) :
    (takeNamed parameters args pieces).1.size + (takeNamed parameters args pieces).2.length ≤
      args.size + pieces.length := by
  induction pieces generalizing args with
  | nil => exact le_rfl
  | cons piece rest ih =>
      rw [takeNamed]
      split
      · next key value _ =>
        split
        · have hset := args.size_insert_le key (String.ofList (decode value))
          have hrest := ih (args.set key (String.ofList (decode value)))
          rw [RouteArgs.set] at hrest ⊢
          rw [List.length_cons]
          omega
        · exact le_rfl
      · exact le_rfl

/-- Each piece binds at most one argument. -/
theorem size_le_of_matchSteps {steps : List Step} {args bound : RouteArgs}
    {pieces : List (List Char)} (h : matchSteps steps args pieces = some bound) :
    bound.size ≤ args.size + pieces.length := by
  induction steps generalizing args pieces with
  | nil =>
      simp only [matchSteps, Option.ite_none_right_eq_some, Option.some.injEq] at h
      obtain ⟨rfl, rfl⟩ := h
      exact le_rfl
  | cons step steps ih =>
      cases step with
      | literal text =>
          cases pieces with
          | nil => simp [matchSteps] at h
          | cons piece rest =>
              rw [matchSteps] at h
              split at h
              · have hrest := ih h
                rw [List.length_cons]
                omega
              · simp at h
      | positional key optional =>
          cases pieces with
          | nil =>
              rw [matchSteps] at h
              split at h
              · exact ih h
              · simp at h
          | cons piece rest =>
              rw [matchSteps] at h
              split at h
              · have hset := args.size_insert_le key (String.ofList (decode piece))
                have hrest := ih h
                rw [RouteArgs.set] at hrest
                rw [List.length_cons]
                omega
              · split at h
                · exact ih h
                · simp at h
      | run parameters =>
          simp only [matchSteps, Option.ite_none_right_eq_some] at h
          exact (ih h.2).trans (size_takeNamed_le parameters args pieces)

end Route

/-! ### Arguments written -/

namespace Handler

/-- The keys of a handler that arguments hold are no more than the arguments. -/
theorem countP_keys_le (h : Handler) (args : RouteArgs) :
    h.keys.countP args.contains ≤ args.size := by
  rw [List.countP_eq_length_filter]
  refine SortedMap.length_le_size (List.Nodup.filter _ ?_) fun k hk => (List.mem_filter.1 hk).2
  cases h <;> decide

/-- One key counts once if it has a value, and not at all otherwise. -/
theorem countP_contains_singleton (args : RouteArgs) (key : String) :
    [key].countP args.contains = (args.get? key).toList.length := by
  cases hget : args.get? key <;> simp [SortedMap.contains, hget]

/-- The name and the type are written as a piece each. -/
theorem length_listPieces (args : RouteArgs) :
    (listPieces args).length = [RouteArgs.nameKey, RouteArgs.typeKey].countP args.contains := by
  rw [listPieces, namedPieces, namedPieces, List.length_append, List.length_map, List.length_map,
    RouteArgs.name?, RouteArgs.type?, ← countP_contains_singleton, ← countP_contains_singleton,
    ← List.countP_append]
  rfl

/-- An id is written as a piece, unless it is empty. -/
theorem length_idPieces_le (args : RouteArgs) :
    (idPieces args).length ≤ [RouteArgs.idKey].countP args.contains := by
  rw [idPieces, List.length_map, RouteArgs.id?, countP_contains_singleton]
  cases args.get? RouteArgs.idKey with
  | none => exact le_rfl
  | some id => exact Option.length_toList_le

/-- A path is written with at most one piece for each argument. -/
theorem length_pieces_le {h : Handler} {args : RouteArgs} (hrenders : h.Renders args) :
    (h.pieces args).length ≤ args.size := by
  refine le_trans ?_ (h.countP_keys_le args)
  have hlist := length_listPieces args
  have hid := length_idPieces_le args
  have hflag : ∀ flag, h.flag? = some flag → [flag.key].countP args.contains = 1 := by
    intro flag hneeds
    have hraised : args.contains flag.key = true := hrenders.flag flag hneeds
    simp [hraised]
  cases h with
  | load => exact hlist.le
  | loadFilter =>
      have hraised := hflag .filter rfl
      change (idPieces args ++ listPieces args).length + 1 ≤
        ([Flag.filter.key] ++ ([RouteArgs.idKey] ++
          [RouteArgs.nameKey, RouteArgs.typeKey])).countP args.contains
      rw [List.countP_append, List.countP_append, List.length_append]
      omega
  | loadDelete =>
      have hraised := hflag .deleted rfl
      change (listPieces args).length + 1 ≤
        ([Flag.deleted.key] ++ [RouteArgs.nameKey, RouteArgs.typeKey]).countP args.contains
      rw [List.countP_append]
      omega
  | loadConfigs =>
      change (idPieces args ++ listPieces args).length ≤
        ([RouteArgs.idKey] ++ [RouteArgs.nameKey, RouteArgs.typeKey]).countP args.contains
      rw [List.countP_append, List.length_append]
      omega
  | loadNewConfigs =>
      have hraised := hflag .new rfl
      change (idPieces args ++ flagPiece .new :: listPieces args).length ≤
        ([RouteArgs.idKey] ++ ([Flag.new.key] ++
          [RouteArgs.nameKey, RouteArgs.typeKey])).countP args.contains
      rw [List.countP_append, List.countP_append, List.length_append, List.length_cons]
      omega
  | loadEditConfigs =>
      have hraised := hflag .edit rfl
      change (idPieces args ++ flagPiece .edit :: listPieces args).length ≤
        ([RouteArgs.idKey] ++ ([Flag.edit.key] ++
          [RouteArgs.nameKey, RouteArgs.typeKey])).countP args.contains
      rw [List.countP_append, List.countP_append, List.length_append, List.length_cons]
      omega

/-- A resolved path has at most four arguments. -/
theorem Admits.size_le {h : Handler} {args : RouteArgs} (ha : h.Admits args) : args.size ≤ 4 := by
  refine (SortedMap.size_le_length ha.mem_keys).trans ?_
  cases h <;> decide

end Handler

section Page

variable {page path : String} {table : RouteTable Handler} {h h' : Handler} {args args' : RouteArgs}

/-- A path has no more pieces than the words of its page and the pieces of its arguments. -/
theorem length_pathPieces_path_le (page : String) (h : Handler) (args : RouteArgs) :
    (pathPieces (h.path page args)).length ≤
      (Handler.pageWords page).length + (h.pieces args).length := by
  have hdrop := length_piecesOf_dropWhile_le (· = '#')
    (['/'].intercalate ((Handler.pageWords page).map encode ++ h.pieces args))
  rw [piecesOf_join fun p hp => of_mem_words_append_pieces hp, List.length_append,
    List.length_map] at hdrop
  rw [Handler.path, pathPieces, String.toList_ofList]
  exact hdrop

/-- What a written path resolves to has no more arguments than it was written with. -/
theorem size_le_of_resolve_hash (hpage : ':' ∉ page.toList) (htable : pageTable page = .ok table)
    (hhash : table.hash h args = .ok path) (hresolve : table.resolve path = .ok (h', args')) :
    args'.size ≤ args.size := by
  obtain ⟨hrenders, rfl⟩ := (hash_eq_ok_iff hpage htable).1 hhash
  obtain ⟨rest, hbehind, hsteps⟩ := (resolve_eq_ok_iff_of_page hpage htable).1 hresolve
  have hbound : args'.size ≤ 0 + rest.length := size_le_of_matchSteps hsteps
  have hpieces := length_of_behind hbehind
  have hpath := length_pathPieces_path_le page h args
  have hwritten := Handler.length_pieces_le hrenders
  omega

end Page

end ConfigBrowser

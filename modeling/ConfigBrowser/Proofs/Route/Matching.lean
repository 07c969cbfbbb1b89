import ConfigBrowser.Proofs.Route.Pieces

/-!
# Matching Pieces Against Steps

What a run of named parameters takes from the pieces of a path, and how literal steps at the front
of a pattern split a path into the pieces they match and those behind.

## Main results

* `exists_taken`: a run takes arguments from the front and binds each as the path means it.
* `takeNamed_spec`: a run takes named pieces from the front, each for a parameter of its own, and
  leaves what was bound before.
* `of_matchSteps_run`, `of_matchSteps_last_run`: what a run that matches takes; at the end of a
  pattern it takes every piece that is left.
* `matchSteps_literals`: literals at the front of a pattern match piece by piece.
-/

namespace ConfigBrowser

namespace RouteArgs

/-- Setting an argument concerns its own key and no other. -/
theorem get?_set (args : RouteArgs) (key value k : String) :
    (args.set key value).get? k = if k = key then some value else args.get? k :=
  SortedMap.get?_insert args key k value

/-- An argument that is not there has no value. -/
theorem contains_eq_false_iff {args : RouteArgs} {key : String} :
    args.contains key = false ↔ args.get? key = none := by
  rw [SortedMap.contains, Option.isSome_eq_false_iff, Option.isNone_iff_eq_none]

end RouteArgs

namespace Route

/-- The parameter that a piece names, if it has the form `key:value`. -/
def nameOf (piece : List Char) : Option String := (splitNamed piece).map Prod.fst

/-- A piece has no name exactly if it is not of the form `key:value`. -/
theorem nameOf_eq_none_iff {piece : List Char} : nameOf piece = none ↔ ¬ IsNamedForm piece := by
  rw [nameOf, Option.map_eq_none_iff, splitNamed_eq_none_iff]

/-- A piece that can be split has its key as its name. -/
theorem nameOf_eq_some_of_splitNamed {piece value : List Char} {key : String}
    (h : splitNamed piece = some (key, value)) : nameOf piece = some key := by
  rw [nameOf, h, Option.map_some]

/-! ### Binding arguments -/

/-- The arguments with further ones bound, in order. -/
def bindAll (args : RouteArgs) (bound : List (String × String)) : RouteArgs :=
  bound.foldl (fun args e => args.set e.1 e.2) args

/-- The first of several arguments is bound first. -/
theorem bindAll_cons (args : RouteArgs) (e : String × String) (bound : List (String × String)) :
    bindAll args (e :: bound) = bindAll (args.set e.1 e.2) bound := rfl

/-- Arguments may be bound in parts. -/
theorem bindAll_append (args : RouteArgs) (bound more : List (String × String)) :
    bindAll args (bound ++ more) = bindAll (bindAll args bound) more :=
  List.foldl_append

/-- Binding other arguments does not change what is bound. -/
theorem get?_bindAll_of_not_mem {args : RouteArgs} {bound : List (String × String)} {key : String}
    (hkey : key ∉ bound.map Prod.fst) : (bindAll args bound).get? key = args.get? key := by
  induction bound generalizing args with
  | nil => rfl
  | cons e bound ih =>
      obtain ⟨hne, hkey⟩ := not_or.1 (mt List.mem_cons.2 hkey)
      rw [bindAll_cons, ih hkey, RouteArgs.get?_set, if_neg hne]

/-- An argument that is bound once can be looked up. -/
theorem get?_bindAll_of_mem {args : RouteArgs} {bound : List (String × String)}
    (hnodup : (bound.map Prod.fst).Nodup) {key value : String} (hmem : (key, value) ∈ bound) :
    (bindAll args bound).get? key = some value := by
  induction bound generalizing args with
  | nil => simp at hmem
  | cons e bound ih =>
      obtain ⟨hfirst, hnodup⟩ := List.nodup_cons.1 hnodup
      rcases List.mem_cons.1 hmem with rfl | hmem
      · rw [bindAll_cons, get?_bindAll_of_not_mem hfirst, RouteArgs.get?_set, if_pos rfl]
      · exact ih hnodup hmem

/-- The arguments that are bound once each, starting from none, are those that can be looked up. -/
theorem get?_bindAll_empty_iff {bound : List (String × String)}
    (hnodup : (bound.map Prod.fst).Nodup) {key value : String} :
    (bindAll .empty bound).get? key = some value ↔ (key, value) ∈ bound := by
  refine ⟨fun hget => ?_, get?_bindAll_of_mem hnodup⟩
  by_cases hkey : key ∈ bound.map Prod.fst
  · obtain ⟨⟨k, v⟩, hmem, rfl⟩ := List.mem_map.1 hkey
    obtain rfl : v = value :=
      Option.some.inj ((get?_bindAll_of_mem hnodup hmem).symm.trans hget)
    exact hmem
  · rw [get?_bindAll_of_not_mem hkey] at hget
    simp at hget

/-- What is bound was there before or is among the arguments that are bound. -/
theorem contains_bindAll_iff {args : RouteArgs} {bound : List (String × String)} {key : String} :
    (bindAll args bound).contains key = true ↔
      args.contains key = true ∨ key ∈ bound.map Prod.fst := by
  induction bound generalizing args with
  | nil => simp [bindAll]
  | cons e bound ih =>
      rw [bindAll_cons, ih, SortedMap.contains, RouteArgs.get?_set, List.map_cons, List.mem_cons,
        SortedMap.contains]
      by_cases hkey : key = e.1 <;> simp [hkey]

/-- Does no key of a list have an argument yet? -/
def Unbound (args : RouteArgs) (keys : List String) : Prop := ∀ key ∈ keys, args.get? key = none

namespace Unbound

variable {args : RouteArgs} {keys more : List String}

/-- Fewer keys are unbound if all are. -/
theorem mono (h : Unbound args keys) (hsub : more ⊆ keys) : Unbound args more :=
  fun key hkey => h key (hsub hkey)

/-- Keys stay unbound when arguments with other keys are bound. -/
theorem bindAll (h : Unbound args keys) {bound : List (String × String)}
    (hdisjoint : List.Disjoint (bound.map Prod.fst) keys) : Unbound (bindAll args bound) keys := by
  intro key hkey
  rw [get?_bindAll_of_not_mem fun hmem => hdisjoint hmem hkey]
  exact h key hkey

/-- Keys stay unbound when another one is set. -/
theorem set (h : Unbound args keys) {key : String} (hkey : key ∉ keys) (value : String) :
    Unbound (args.set key value) keys := by
  intro k hk
  rw [RouteArgs.get?_set, if_neg (ne_of_mem_of_not_mem hk hkey)]
  exact h k hk

end Unbound

/-! ### Runs of named parameters -/

/-- A piece of the form `key:value`. -/
def pieceOf (argument : String × List Char) : List Char :=
  argument.1.toList ++ ':' :: argument.2

/-- An argument with its value as the path means it. -/
def meant (argument : String × List Char) : String × String :=
  (argument.1, String.ofList (decode argument.2))

/-- The piece of an argument is split into the argument again. -/
theorem splitNamed_pieceOf {argument : String × List Char}
    (hkey : isKey argument.1.toList = true) : splitNamed (pieceOf argument) = some argument := by
  rw [pieceOf, splitNamed_of_isKey hkey, String.ofList_toList]

/-- Only the piece of an argument is split into it, and its key is a proper one. -/
theorem of_splitNamed {piece : List Char} {argument : String × List Char}
    (h : splitNamed piece = some argument) :
    isKey argument.1.toList = true ∧ piece = pieceOf argument := by
  obtain ⟨key, hkey, hname, rfl⟩ := splitNamed_eq_some_iff.1 h
  rw [pieceOf, hname, String.toList_ofList]
  exact ⟨hkey, rfl⟩

/-- The piece of an argument has the argument's key as its name. -/
theorem nameOf_pieceOf {argument : String × List Char} (hkey : isKey argument.1.toList = true) :
    nameOf (pieceOf argument) = some argument.1 :=
  nameOf_eq_some_of_splitNamed (splitNamed_pieceOf hkey)

/-- What arguments mean is bound to their own keys. -/
theorem map_fst_meant (taken : List (String × List Char)) :
    (taken.map meant).map Prod.fst = taken.map Prod.fst := by
  rw [List.map_map]
  rfl

/-- A run takes a piece that names one of its parameters for the first time. -/
theorem takeNamed_cons_of_splitNamed {parameters : List (String × Bool)} {args : RouteArgs}
    {piece value : List Char} {key : String} (hs : splitNamed piece = some (key, value))
    (hdeclared : key ∈ parameters.map Prod.fst) (hfresh : args.contains key = false)
    (rest : List (List Char)) :
    takeNamed parameters args (piece :: rest) =
      takeNamed parameters (args.set key (String.ofList (decode value))) rest := by
  obtain ⟨p, hp, hkey⟩ := List.mem_map.1 hdeclared
  have hany : parameters.any (·.1 = key) = true := List.any_eq_true.2 ⟨p, hp, by simpa using hkey⟩
  rw [takeNamed, hs]
  simp [hany, hfresh]

/-- What a run of named parameters does: it takes pieces from the front, each of which names a
parameter of the run, binds exactly the parameters named by them, and leaves what was bound
before. -/
structure Takes (parameters : List (String × Bool)) (args : RouteArgs) (taken : List (List Char))
    (bound : RouteArgs) : Prop where
  declared : ∀ piece ∈ taken, ∃ key ∈ parameters.map Prod.fst, nameOf piece = some key
  contains_iff : ∀ key, bound.contains key = true ↔
    args.contains key = true ∨ some key ∈ taken.map nameOf
  keeps : ∀ key, args.contains key = true → bound.get? key = args.get? key

/-- What a run takes are arguments for parameters of its own, none of them twice and none that is
bound already. -/
structure Taken (parameters : List (String × Bool)) (args : RouteArgs)
    (taken : List (String × List Char)) : Prop where
  named : ∀ argument ∈ taken, isKey argument.1.toList = true
  nodup : (taken.map Prod.fst).Nodup
  unbound : Unbound args (taken.map Prod.fst)
  declared : taken.map Prod.fst ⊆ parameters.map Prod.fst

/-- A run may take nothing. -/
theorem Taken.nil (parameters : List (String × Bool)) (args : RouteArgs) :
    Taken parameters args [] :=
  ⟨by simp, List.nodup_nil, by simp [Unbound], by simp⟩

/-- A run that takes an argument goes on with the argument bound. -/
theorem taken_cons_iff {parameters : List (String × Bool)} {args : RouteArgs}
    {argument : String × List Char} {taken : List (String × List Char)} (value : String) :
    Taken parameters args (argument :: taken) ↔
      isKey argument.1.toList = true ∧ argument.1 ∈ parameters.map Prod.fst ∧
        args.get? argument.1 = none ∧ Taken parameters (args.set argument.1 value) taken := by
  constructor
  · rintro ⟨hnamed, hnodup, hunbound, hdeclared⟩
    obtain ⟨hkey, hnamed⟩ := List.forall_mem_cons.1 hnamed
    obtain ⟨hnew, hnodup⟩ := List.nodup_cons.1 hnodup
    obtain ⟨hfresh, hunbound⟩ := List.forall_mem_cons.1 hunbound
    obtain ⟨hfirst, hdeclared⟩ := List.cons_subset.1 hdeclared
    exact ⟨hkey, hfirst, hfresh, hnamed, hnodup, Unbound.set hunbound hnew value, hdeclared⟩
  · rintro ⟨hkey, hfirst, hfresh, hnamed, hnodup, hunbound, hdeclared⟩
    have hnew : argument.1 ∉ taken.map Prod.fst := by
      intro hmem
      have hget := hunbound _ hmem
      rw [RouteArgs.get?_set, if_pos rfl] at hget
      cases hget
    refine ⟨List.forall_mem_cons.2 ⟨hkey, hnamed⟩, List.nodup_cons.2 ⟨hnew, hnodup⟩,
      List.forall_mem_cons.2 ⟨hfresh, fun key hmem => ?_⟩, List.cons_subset.2 ⟨hfirst, hdeclared⟩⟩
    have hget := hunbound key hmem
    rwa [RouteArgs.get?_set, if_neg (ne_of_mem_of_not_mem hmem hnew)] at hget

/-- A run takes arguments from the front and leaves the other pieces. -/
theorem exists_taken (parameters : List (String × Bool)) (args : RouteArgs)
    (pieces : List (List Char)) :
    ∃ (taken : List (String × List Char)) (rest : List (List Char)),
      pieces = taken.map pieceOf ++ rest ∧
      takeNamed parameters args pieces = (bindAll args (taken.map meant), rest) ∧
      Taken parameters args taken := by
  induction pieces generalizing args with
  | nil => exact ⟨[], [], rfl, rfl, .nil parameters args⟩
  | cons piece pieces ih =>
      by_cases htakes : ∃ argument, splitNamed piece = some argument ∧
          argument.1 ∈ parameters.map Prod.fst ∧ args.contains argument.1 = false
      · obtain ⟨⟨key, value⟩, hs, hdeclared, hfresh⟩ := htakes
        obtain ⟨hkey, hpiece⟩ := of_splitNamed hs
        obtain ⟨taken, rest, hpieces, htaken, h⟩ :=
          ih (args.set key (String.ofList (decode value)))
        refine ⟨(key, value) :: taken, rest, ?_, ?_, ?_⟩
        · rw [hpieces, List.map_cons, List.cons_append, ← hpiece]
        · rw [takeNamed_cons_of_splitNamed hs hdeclared hfresh, htaken]
          rfl
        · exact (taken_cons_iff _).2
            ⟨hkey, hdeclared, RouteArgs.contains_eq_false_iff.1 hfresh, h⟩
      · refine ⟨[], piece :: pieces, rfl, ?_, .nil parameters args⟩
        rw [takeNamed]
        split
        · next key value hs =>
          rw [if_neg]
          · rfl
          · rw [Bool.and_eq_true, List.any_eq_true]
            rintro ⟨⟨p, hp, hkey⟩, hfresh⟩
            exact htakes ⟨(key, value), hs, List.mem_map.2 ⟨p, hp, by simpa using hkey⟩,
              by simpa using hfresh⟩
        · rfl

/-- A run takes pieces from the front and leaves the others. -/
theorem takeNamed_spec (parameters : List (String × Bool)) (args : RouteArgs)
    (pieces : List (List Char)) :
    ∃ taken, pieces = taken ++ (takeNamed parameters args pieces).2 ∧
      Takes parameters args taken (takeNamed parameters args pieces).1 := by
  obtain ⟨taken, rest, hpieces, htaken, h⟩ := exists_taken parameters args pieces
  rw [htaken]
  have hnames : (taken.map pieceOf).map nameOf = (taken.map Prod.fst).map some := by
    rw [List.map_map, List.map_map]
    exact List.map_congr_left fun argument hmem => nameOf_pieceOf (h.named argument hmem)
  refine ⟨taken.map pieceOf, hpieces, fun piece hpiece => ?_, fun key => ?_, fun key hkey => ?_⟩
  · obtain ⟨argument, hmem, rfl⟩ := List.mem_map.1 hpiece
    exact ⟨argument.1, h.declared (List.mem_map_of_mem hmem), nameOf_pieceOf (h.named _ hmem)⟩
  · rw [contains_bindAll_iff, map_fst_meant, hnames]
    simp
  · refine get?_bindAll_of_not_mem fun hmem => ?_
    rw [map_fst_meant] at hmem
    rw [RouteArgs.contains_eq_false_iff.2 (h.unbound key hmem)] at hkey
    cases hkey

/-- A run that matches takes pieces from the front, binds its required parameters and leaves the
rest to the steps behind it. -/
theorem of_matchSteps_run {parameters : List (String × Bool)} {steps : List Step}
    {args bound : RouteArgs} {pieces : List (List Char)}
    (h : matchSteps (.run parameters :: steps) args pieces = some bound) :
    ∃ taken rest middle, pieces = taken ++ rest ∧ Takes parameters args taken middle ∧
      (∀ p ∈ parameters, p.2 = true ∨ middle.contains p.1 = true) ∧
      matchSteps steps middle rest = some bound := by
  obtain ⟨taken, hpieces, htakes⟩ := takeNamed_spec parameters args pieces
  rw [matchSteps] at h
  rcases htaken : takeNamed parameters args pieces with ⟨middle, rest⟩
  rw [htaken] at h hpieces htakes
  simp only [Option.ite_none_right_eq_some] at h
  obtain ⟨hall, hrest⟩ := h
  exact ⟨taken, rest, middle, hpieces, htakes,
    fun p hp => by simpa using List.all_eq_true.1 hall p hp, hrest⟩

/-- A run at the end of a pattern takes every piece that is left. -/
theorem of_matchSteps_last_run {parameters : List (String × Bool)} {args bound : RouteArgs}
    {pieces : List (List Char)} (h : matchSteps [.run parameters] args pieces = some bound) :
    Takes parameters args pieces bound ∧
      ∀ p ∈ parameters, p.2 = true ∨ bound.contains p.1 = true := by
  obtain ⟨taken, rest, middle, rfl, htakes, hrequired, hend⟩ := of_matchSteps_run h
  simp only [matchSteps, Option.ite_none_right_eq_some, Option.some.injEq] at hend
  obtain ⟨rfl, rfl⟩ := hend
  rw [List.append_nil]
  exact ⟨htakes, hrequired⟩

namespace Takes

variable {parameters : List (String × Bool)} {args bound : RouteArgs} {taken : List (List Char)}

/-- A run takes no piece that names something else than its parameters. -/
theorem not_mem (h : Takes parameters args taken bound) {key : String}
    (hkey : key ∉ parameters.map Prod.fst) : some key ∉ taken.map nameOf := by
  intro hmem
  obtain ⟨piece, hpiece, hname⟩ := List.mem_map.1 hmem
  obtain ⟨key', hkey', hname'⟩ := h.declared piece hpiece
  obtain rfl : key' = key := Option.some.inj (hname'.symm.trans hname)
  exact hkey hkey'

/-- Every piece that a run takes has a name. -/
theorem none_not_mem (h : Takes parameters args taken bound) : none ∉ taken.map nameOf := by
  intro hmem
  obtain ⟨piece, hpiece, hnone⟩ := List.mem_map.1 hmem
  obtain ⟨key, -, hname⟩ := h.declared piece hpiece
  rw [hname] at hnone
  simp at hnone

/-- A parameter that is bound for the first time is named by a piece. -/
theorem mem_of_contains (h : Takes parameters args taken bound) {key : String}
    (hbound : bound.contains key = true) (hfresh : args.contains key = false) :
    some key ∈ taken.map nameOf :=
  ((h.contains_iff key).1 hbound).resolve_left (by simp [hfresh])

/-- What is bound was bound before or is a parameter of the run. -/
theorem contains_or_mem (h : Takes parameters args taken bound) {key : String}
    (hbound : bound.contains key = true) :
    args.contains key = true ∨ key ∈ parameters.map Prod.fst := by
  refine ((h.contains_iff key).1 hbound).imp_right fun hmem => ?_
  by_contra hkey
  exact h.not_mem hkey hmem

end Takes

/-- A piece that names a parameter is taken by a run that has the parameter. -/
theorem exists_run_of_matchSteps {steps : List Step} {args bound : RouteArgs}
    {pieces : List (List Char)} {key : String} (hwords : ∀ text, Step.literal text ∉ steps)
    (h : matchSteps steps args pieces = some bound) (hkey : some key ∈ pieces.map nameOf) :
    ∃ parameters, Step.run parameters ∈ steps ∧ key ∈ parameters.map Prod.fst := by
  induction steps generalizing args pieces with
  | nil =>
      obtain ⟨rfl, -⟩ : pieces = [] ∧ args = bound := by simpa [matchSteps] using h
      simp at hkey
  | cons step steps ih =>
      have hwords' : ∀ text, Step.literal text ∉ steps := fun text hmem =>
        hwords text (List.mem_cons_of_mem _ hmem)
      have hlater : ∀ {args' : RouteArgs} {rest : List (List Char)},
          matchSteps steps args' rest = some bound → some key ∈ rest.map nameOf →
          ∃ parameters, Step.run parameters ∈ step :: steps ∧ key ∈ parameters.map Prod.fst := by
        intro args' rest hrest hmem
        obtain ⟨parameters, hrun, hparameter⟩ := ih hwords' hrest hmem
        exact ⟨parameters, List.mem_cons_of_mem _ hrun, hparameter⟩
      cases step with
      | literal text => exact absurd List.mem_cons_self (hwords text)
      | run parameters =>
          obtain ⟨taken, rest, middle, rfl, htakes, -, hrest⟩ := of_matchSteps_run h
          rw [List.map_append, List.mem_append] at hkey
          rcases hkey with hkey | hkey
          · refine ⟨parameters, List.mem_cons_self, ?_⟩
            by_contra hnot
            exact htakes.not_mem hnot hkey
          · exact hlater hrest hkey
      | positional name optional =>
          cases pieces with
          | nil => simp at hkey
          | cons piece rest =>
              rw [matchSteps] at h
              split at h
              · next hnone =>
                refine hlater h ((List.mem_cons.1 hkey).resolve_left fun he => ?_)
                rw [nameOf, Option.isNone_iff_eq_none.1 hnone] at he
                simp at he
              · split at h
                · exact hlater h hkey
                · simp at h

/-! ### Literals at the front -/

/-- The pieces behind the words at the front of a path, if the path begins with the words. -/
def behind : List (List Char) → List (List Char) → Option (List (List Char))
  | [], pieces => some pieces
  | word :: words, piece :: pieces => if decode piece = word then behind words pieces else none
  | _ :: _, [] => none

/-- Literals at the front of a pattern match piece by piece. -/
theorem matchSteps_literals (words : List (List Char)) (steps : List Step) (args : RouteArgs)
    (pieces : List (List Char)) :
    matchSteps (words.map (fun w => Step.literal (String.ofList w)) ++ steps) args pieces =
      (behind words pieces).bind (matchSteps steps args) := by
  induction words generalizing pieces with
  | nil => simp [behind]
  | cons word words ih =>
      rw [List.map_cons, List.cons_append]
      cases pieces with
      | nil => simp [behind, matchSteps]
      | cons piece rest =>
          rw [matchSteps, behind, String.toList_ofList, ih rest]
          split <;> rfl

/-- A path that writes out the words begins with them. -/
theorem behind_encode (words rest : List (List Char)) :
    behind words (words.map encode ++ rest) = some rest := by
  induction words with
  | nil => rfl
  | cons word words ih => simpa [behind, decode_encode] using ih

/-- What is behind the words of a path are pieces of the path. -/
theorem mem_of_mem_behind {words pieces rest : List (List Char)}
    (h : behind words pieces = some rest) {p : List Char} (hp : p ∈ rest) : p ∈ pieces := by
  induction words generalizing pieces with
  | nil =>
      obtain rfl : pieces = rest := Option.some.inj h
      exact hp
  | cons word words ih =>
      cases pieces with
      | nil => simp [behind] at h
      | cons piece pieces =>
          rw [behind] at h
          split at h
          · exact List.mem_cons_of_mem _ (ih h)
          · simp at h

end Route

end ConfigBrowser

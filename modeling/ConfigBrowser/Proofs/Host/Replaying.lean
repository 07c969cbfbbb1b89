import ConfigBrowser.Host.Script
import ConfigBrowser.Proofs.Route.RoundTrip
import Mathlib

/-!
# Replaying Printed Paths

A script navigates to a path that stands alone on a line. A line is cut into words at its blanks,
and a line of several words that does not begin with a command is refused. The paths of routes write
blanks as they are. So a printed path replays exactly if none of the values that it carries holds a
blank, and a script of printed paths replays exactly if that is so for all of them.

## Main results

* `Command.parse_eq_navigate_iff`: a line navigates if it is a single word and no command.
* `Command.parse_of_several_words`: a line of several words is refused unless it begins with a
  command.
* `Handler.blankFree_path_iff`: which paths are single words.
* `printed_paths_replay_iff`: which printed paths replay, alone and in a script.
-/

namespace ConfigBrowser

namespace Text

/-! ### Texts without blanks -/

/-- Is there no blank in a text? -/
def BlankFree (s : List Char) : Prop := ∀ c ∈ s, isBlank c = false

instance (s : List Char) : Decidable (BlankFree s) :=
  inferInstanceAs (Decidable (∀ c ∈ s, isBlank c = false))

/-- A text has no blank if neither of its parts has one. -/
theorem blankFree_append_iff {s t : List Char} :
    BlankFree (s ++ t) ↔ BlankFree s ∧ BlankFree t :=
  List.forall_mem_append

/-- A text has no blank if neither its first character is one nor the rest has one. -/
theorem blankFree_cons_iff {c : Char} {s : List Char} :
    BlankFree (c :: s) ↔ isBlank c = false ∧ BlankFree s :=
  List.forall_mem_cons

/-- Where there is no blank, nothing is trimmed. -/
theorem BlankFree.trim_eq {s : List Char} (h : BlankFree s) : trim s = s := by
  have hkeep : ∀ t : List Char, BlankFree t → t.dropWhile isBlank = t := by
    intro t ht
    cases t with
    | nil => rfl
    | cons c rest => rw [List.dropWhile_cons, ht c List.mem_cons_self]; rfl
  rw [trim, trimStart, hkeep s h, trimEnd,
    hkeep s.reverse fun c hc => h c (List.mem_reverse.1 hc), List.reverse_reverse]

/-- A text without blanks around it does not end with one. -/
theorem isBlank_of_getLast?_trim {s : List Char} {c : Char} (h : (trim s).getLast? = some c) :
    isBlank c = false := by
  rw [trim, trimEnd, List.getLast?_reverse] at h
  have hhead := List.head?_dropWhile_not isBlank (trimStart s).reverse
  rw [h] at hhead
  simpa using hhead

/-- A text of which nothing is left by trimming is all blank. -/
theorem isBlank_of_trim_eq_nil {s : List Char} (h : trim s = []) : ∀ c ∈ s, isBlank c = true := by
  rw [trim, trimEnd, List.reverse_eq_nil_iff, List.dropWhile_eq_nil_iff] at h
  intro c hc
  rw [← List.takeWhile_append_dropWhile (p := isBlank) (l := s), List.mem_append] at hc
  rcases hc with hc | hc
  · exact List.mem_takeWhile_imp hc
  · exact h c (List.mem_reverse.2 hc)

/-- A cut leaves what stands in front of the first character of the kind, and what stands behind it.
Without such a character all of the text stands in front. -/
theorem getD_cut (p : Char → Bool) (s : List Char) :
    (cut p s).getD (s, []) = (s.takeWhile fun c => !p c, (s.dropWhile fun c => !p c).tail) := by
  induction s with
  | nil => rfl
  | cons c rest ih =>
      rw [cut, List.takeWhile_cons, List.dropWhile_cons]
      cases hc : p c with
      | true => rfl
      | false =>
          cases hcut : cut p rest with
          | none =>
              rw [hcut] at ih
              obtain ⟨hword, hbehind⟩ := Prod.mk.inj ih
              exact Prod.ext (congrArg (c :: ·) hword) hbehind
          | some parts =>
              rw [hcut] at ih
              obtain rfl := ih
              rfl

/-- Taking the blanks away behind a text does not change its first word. -/
theorem takeWhile_trimEnd (s : List Char) :
    (trimEnd s).takeWhile (fun c => !isBlank c) = s.takeWhile fun c => !isBlank c := by
  have hsplit : trimEnd s ++ (s.reverse.takeWhile isBlank).reverse = s := by
    rw [trimEnd, ← List.reverse_append, List.takeWhile_append_dropWhile, List.reverse_reverse]
  have hblank : (s.reverse.takeWhile isBlank).reverse.takeWhile (fun c => !isBlank c) = [] := by
    cases htail : (s.reverse.takeWhile isBlank).reverse with
    | nil => rfl
    | cons c rest =>
        have hc : c ∈ s.reverse.takeWhile isBlank := by
          rw [← List.mem_reverse, htail]
          exact List.mem_cons_self
        have hblank : isBlank c = true := List.mem_takeWhile_imp hc
        rw [List.takeWhile_cons_of_neg (by simp [hblank])]
  conv_rhs => rw [← hsplit, List.takeWhile_append, hblank, List.append_nil]
  split
  · next hall => exact (List.takeWhile_prefix _).eq_of_length hall
  · rfl

/-- Nothing stands behind the first word of a text exactly if there is no blank in it. The text is
not to end with a blank. -/
theorem trim_behind_eq_nil_iff {s : List Char}
    (hlast : ∀ c, s.getLast? = some c → isBlank c = false) :
    trim (s.dropWhile fun c => !isBlank c).tail = [] ↔ BlankFree s := by
  constructor
  · intro hrest
    cases hbehind : s.dropWhile fun c => !isBlank c with
    | nil => simpa [BlankFree] using List.dropWhile_eq_nil_iff.1 hbehind
    | cons c rest =>
        -- Whatever stands behind the first blank is blank, so the text ends with a blank.
        have hhead := List.head?_dropWhile_not (fun c => !isBlank c) s
        rw [hbehind] at hrest hhead
        have hblank : ∀ d ∈ c :: rest, isBlank d = true :=
          List.forall_mem_cons.2 ⟨by simpa using hhead, isBlank_of_trim_eq_nil hrest⟩
        have hne := List.cons_ne_nil c rest
        have hend : s.getLast? = some ((c :: rest).getLast hne) := by
          rw [← List.takeWhile_append_dropWhile (p := fun c => !isBlank c) (l := s), hbehind,
            List.getLast?_append_cons, List.getLast?_eq_some_getLast hne]
        cases (hblank _ (List.getLast_mem hne)).symm.trans (hlast _ hend)
  · intro hfree
    rw [List.dropWhile_eq_nil_iff.2 fun c hc => by simp [hfree c hc]]
    rfl

/-! ### Lines -/

/-- Words are lines as they stand, since no carriage return ends them. -/
theorem linesOf_of_blankFree {ls : List (List Char)} (h : ∀ l ∈ ls, l ≠ [] ∧ BlankFree l) :
    linesOf ls = ls := by
  induction ls with
  | nil => rfl
  | cons line rest ih =>
      obtain ⟨⟨hne, hfree⟩, hrest⟩ := List.forall_mem_cons.1 h
      have hreturn : dropReturn line = line := by
        rw [dropReturn, if_neg]
        intro hlast
        cases hfree '\r' (List.mem_of_getLast? hlast)
      cases rest with
      | nil => rw [linesOf, if_neg hne]
      | cons next more =>
          rw [linesOf, hreturn, ih hrest]
          simp

/-- Words are the lines of the text that they make when a line feed is put between them. -/
theorem lines_intercalate {ls : List (List Char)} (h : ∀ l ∈ ls, l ≠ [] ∧ BlankFree l) :
    lines (['\n'].intercalate ls) = ls := by
  cases ls with
  | nil => rfl
  | cons line rest =>
      have hfeed : ∀ l ∈ line :: rest, '\n' ∉ l := fun l hl hmem => by
        cases (h l hl).2 '\n' hmem
      rw [lines, splitOn_intercalate (List.cons_ne_nil _ _) hfeed, linesOf_of_blankFree h]

end Text

open Text

/-! ### Lines that navigate -/

/-- Wording errors in another way makes none and removes none. -/
theorem mapError_eq_ok_iff {ε ε' α : Type} {x : Except ε α} {f : ε → ε'} {a : α} :
    x.mapError f = .ok a ↔ x = .ok a := by
  cases x <;> simp [Except.mapError]

namespace Command

/-- The words that commands begin with. -/
def leadingWords : List String :=
  ["press", "confirm", "cancel", "edit", "reset", "timers", "defer", "release"]

/-- The first word of a line. -/
def firstWord (line : List Char) : String :=
  String.ofList ((trimStart line).takeWhile fun c => !isBlank c)

/-- A word leads to a command exactly if commands begin with it. -/
theorem ofWord?_eq_none_iff (word rest : String) :
    ofWord? word rest = none ↔ word ∉ leadingWords := by
  rw [ofWord?.eq_def, leadingWords]
  repeat' split
  all_goals simp_all

/-- No command that a word leads to is a navigation. -/
theorem ofWord?_ne_navigate (word rest path : String) :
    ofWord? word rest ≠ some (.ok (.navigate path)) := by
  rw [ofWord?.eq_def]
  repeat' split
  all_goals simp

/-- Trimming a line leaves its first word. -/
theorem firstWord_trim (line : List Char) :
    String.ofList ((trim line).takeWhile fun c => !isBlank c) = firstWord line := by
  rw [trim, takeWhile_trimEnd, firstWord]

/-- A line is known by its first word. If commands do not begin with it, there must not be another
one. -/
theorem ofTrimmed_trim (line : List Char) : ∃ rest,
    ofTrimmed (trim line) = (ofWord? (firstWord line) rest).getD
      (if BlankFree (trim line) then .ok (.navigate (String.ofList (trim line)))
        else .error .unknownCommand) := by
  refine ⟨String.ofList (trim ((trim line).dropWhile fun c => !isBlank c).tail), ?_⟩
  rw [ofTrimmed, getD_cut]
  dsimp only
  rw [firstWord_trim]
  split
  · next hword => rw [hword, Option.getD_some]
  · next hword =>
    rw [hword, Option.getD_none]
    exact if_congr (trim_behind_eq_nil_iff fun _ => isBlank_of_getLast?_trim) rfl rfl

/-- A line navigates exactly if it is a single word and no command. It navigates to that word. -/
theorem parseLine_eq_navigate_iff {line : List Char} {path : String} :
    parseLine line = .ok (.navigate path) ↔
      firstWord line ∉ leadingWords ∧ path = String.ofList (trim line) ∧ BlankFree path.toList := by
  obtain ⟨rest, hline⟩ := ofTrimmed_trim line
  rw [parseLine, mapError_eq_ok_iff, hline, ← ofWord?_eq_none_iff _ rest]
  cases hword : ofWord? (firstWord line) rest with
  | some command =>
      refine iff_of_false (fun hnavigate => ?_) fun hnot => by cases hnot.1
      exact ofWord?_ne_navigate _ _ path (hword.trans (congrArg some hnavigate))
  | none =>
      rw [Option.getD_none]
      constructor
      · intro hnavigate
        split at hnavigate
        · next hfree =>
          obtain rfl := Command.navigate.inj (Except.ok.inj hnavigate)
          exact ⟨rfl, rfl, by rwa [String.toList_ofList]⟩
        · cases hnavigate
      · rintro ⟨-, rfl, hfree⟩
        rw [if_pos (by rwa [String.toList_ofList] at hfree)]

/-- A line navigates exactly if it is a single word and no command. -/
theorem parse_eq_navigate_iff {line path : String} :
    parse line = .ok (.navigate path) ↔
      firstWord line.toList ∉ leadingWords ∧ path = trimmed line ∧ BlankFree path.toList := by
  rw [parse, mapError_eq_ok_iff, parseLine_eq_navigate_iff]
  rfl

/-- A line of several words is refused unless it begins with a command. -/
theorem parse_of_several_words {line : String} (hword : firstWord line.toList ∉ leadingWords)
    (hseveral : ¬ BlankFree (trimmed line).toList) :
    parse line = .error (.config (.badCommand .unknownCommand (trimmed line))) := by
  obtain ⟨rest, hline⟩ := ofTrimmed_trim line.toList
  rw [trimmed, String.toList_ofList] at hseveral
  rw [parse, parseLine, hline, (ofWord?_eq_none_iff _ _).2 hword, Option.getD_none,
    if_neg hseveral]
  rfl

/-! ### Scripts that navigate -/

/-- The paths that a script navigates to have no blanks. -/
theorem blankFree_of_mem_parseLines {number : Nat} {ls : List (List Char)} {commands : List Command}
    (h : parseLines number ls = .ok commands) {path : String}
    (hmem : .navigate path ∈ commands) : BlankFree path.toList := by
  induction ls generalizing number commands with
  | nil =>
      obtain rfl := Except.ok.inj h
      cases hmem
  | cons line rest ih =>
      rw [parseLines] at h
      split at h
      · exact ih h hmem
      · split at h
        · cases h
        · next command hline =>
          cases hrest : parseLines (number + 1) rest with
          | error fault => simp [hrest, Except.map] at h
          | ok more =>
              obtain rfl : command :: more = commands := by simpa [hrest, Except.map] using h
              rcases List.mem_cons.1 hmem with rfl | hmem
              · exact (parseLine_eq_navigate_iff.1 hline).2.2
              · exact ih hrest hmem

/-- Lines that navigate to themselves make a script that navigates to each of them in order. -/
theorem parseLines_of_navigate {ls : List (List Char)}
    (h : ∀ l ∈ ls, isSkipped l = false ∧ parseLine l = .ok (.navigate (String.ofList l)))
    (number : Nat) :
    parseLines number ls = .ok (ls.map fun l => .navigate (String.ofList l)) := by
  induction ls generalizing number with
  | nil => rfl
  | cons line rest ih =>
      obtain ⟨⟨hskip, hline⟩, hrest⟩ := List.forall_mem_cons.1 h
      rw [parseLines, hskip, hline, ih hrest]
      rfl

/-- No command begins like the page of configurations. -/
theorem firstWord_not_mem_of_configs (behind : List Char) :
    firstWord ("configs".toList ++ behind) ∉ leadingWords := by
  have hfirst : (firstWord ("configs".toList ++ behind)).toList.take 7 = "configs".toList := by
    rw [firstWord, String.toList_ofList]
    rfl
  intro hmem
  revert hfirst
  generalize firstWord ("configs".toList ++ behind) = word at hmem
  revert word
  decide

end Command

/-! ### Blanks in paths -/

namespace Route

/-- Escaping adds no blank and removes none. -/
theorem blankFree_encode_iff {s : List Char} : BlankFree (encode s) ↔ BlankFree s := by
  induction s with
  | nil => rfl
  | cons c rest ih =>
      have hchar : BlankFree (encodeChar c) ↔ isBlank c = false := by
        by_cases hplain : c = '%' ∨ c = '/'
        · rcases hplain with rfl | rfl
          · exact iff_of_true (by simp [encodeChar, BlankFree, isBlank]) rfl
          · exact iff_of_true (by simp [encodeChar, BlankFree, isBlank]) rfl
        · rw [not_or] at hplain
          rw [encodeChar_of_ne hplain.1 hplain.2]
          exact List.forall_mem_singleton
      rw [encode_cons, blankFree_append_iff, hchar, ih, blankFree_cons_iff]

/-- Joining pieces of a path adds no blank. -/
theorem blankFree_intercalate_iff {ps : List (List Char)} :
    BlankFree (['/'].intercalate ps) ↔ ∀ p ∈ ps, BlankFree p := by
  have hslash : BlankFree ['/'] := List.forall_mem_singleton.2 (by decide)
  induction ps with
  | nil => exact iff_of_true (fun c hc => by cases hc) fun p hp => by cases hp
  | cons p rest ih =>
      cases rest with
      | nil => simp
      | cons q more =>
          rw [List.intercalate_cons_cons, blankFree_append_iff, blankFree_append_iff,
            List.forall_mem_cons, and_iff_left hslash]
          exact and_congr_right' ih

end Route

open Route

namespace Handler

/-- Does a handler's path carry a value: as the id, the name or the type that its pattern names? -/
def Carries (h : Handler) (args : RouteArgs) (value : String) : Prop :=
  ∃ key ∈ [RouteArgs.idKey, RouteArgs.nameKey, RouteArgs.typeKey],
    key ∈ h.keys ∧ args.get? key = some value

/-- Is no blank in the value of a key? -/
def Plain (args : RouteArgs) (key : String) : Prop :=
  ∀ value, args.get? key = some value → BlankFree value.toList

/-- A named piece has a blank exactly if its value has one. -/
theorem blankFree_namedPiece_iff {key : String} (hkey : BlankFree key.toList) {value : String} :
    BlankFree (namedPiece key value) ↔ BlankFree value.toList := by
  rw [namedPiece, blankFree_append_iff, blankFree_cons_iff, blankFree_encode_iff,
    and_iff_right hkey, and_iff_right (by decide)]

/-- The piece of a flag has no blank. -/
theorem blankFree_flagPiece (flag : Flag) : BlankFree (flagPiece flag) := by
  have hkey : BlankFree flag.key.toList := by
    cases flag <;> simp [Flag.key, BlankFree, isBlank]
  exact (blankFree_namedPiece_iff hkey).2 fun c hc => by cases hc

/-- The pieces for name and type have no blank exactly if name and type have none. -/
theorem blankFree_listPieces_iff {args : RouteArgs} :
    (∀ p ∈ listPieces args, BlankFree p) ↔
      Plain args RouteArgs.nameKey ∧ Plain args RouteArgs.typeKey := by
  have hnamed : ∀ key, BlankFree key.toList →
      ((∀ p ∈ namedPieces key (args.get? key), BlankFree p) ↔ Plain args key) := by
    intro key hkey
    simp only [namedPieces, List.forall_mem_map, Option.mem_toList, Plain,
      blankFree_namedPiece_iff hkey]
  have hname : BlankFree RouteArgs.nameKey.toList := by
    simp [RouteArgs.nameKey, BlankFree, isBlank]
  have htype : BlankFree RouteArgs.typeKey.toList := by
    simp [RouteArgs.typeKey, BlankFree, isBlank]
  rw [listPieces, List.forall_mem_append]
  exact and_congr (hnamed _ hname) (hnamed _ htype)

/-- An id that is not written is empty. -/
theorem blankFree_idPieces_iff {args : RouteArgs} :
    (∀ p ∈ idPieces args, BlankFree p) ↔ Plain args RouteArgs.idKey := by
  simp only [idPieces, List.forall_mem_map, Option.mem_toList, blankFree_encode_iff, RouteArgs.id?,
    Option.filter_eq_some_iff, Plain]
  refine forall_congr' fun value => ⟨fun h hget => ?_, fun h hid => h hid.1⟩
  by_cases hempty : value = ""
  · subst hempty
    exact fun c hc => by cases hc
  · exact h ⟨hget, by simpa using hempty⟩

/-- The values that a handler's path carries are the name, the type and, for some, the id. -/
theorem blankFree_carried_iff {h : Handler} {args : RouteArgs} :
    (∀ value, h.Carries args value → BlankFree value.toList) ↔
      (RouteArgs.idKey ∈ h.keys → Plain args RouteArgs.idKey) ∧ Plain args RouteArgs.nameKey ∧
        Plain args RouteArgs.typeKey := by
  have hname : RouteArgs.nameKey ∈ h.keys := by cases h <;> decide
  have htype : RouteArgs.typeKey ∈ h.keys := by cases h <;> decide
  constructor
  · intro hall
    exact ⟨fun hid value hget => hall value ⟨_, by simp, hid, hget⟩,
      fun value hget => hall value ⟨_, by simp, hname, hget⟩,
      fun value hget => hall value ⟨_, by simp, htype, hget⟩⟩
  · rintro ⟨hidPlain, hnamePlain, htypePlain⟩ value ⟨key, hkey, hnamed, hget⟩
    simp only [List.mem_cons, List.not_mem_nil, or_false] at hkey
    rcases hkey with rfl | rfl | rfl
    · exact hidPlain hnamed value hget
    · exact hnamePlain value hget
    · exact htypePlain value hget

/-- The pieces of a path have no blank exactly if no value that it carries has one. -/
theorem blankFree_pieces_iff {h : Handler} {args : RouteArgs} :
    (∀ p ∈ h.pieces args, BlankFree p) ↔
      ∀ value, h.Carries args value → BlankFree value.toList := by
  rw [blankFree_carried_iff, ← blankFree_listPieces_iff]
  cases h <;> simp only [pieces, List.forall_mem_append, List.forall_mem_cons,
    blankFree_idPieces_iff, blankFree_flagPiece, true_and]
  case load | loadDelete => exact (and_iff_right fun hid => absurd hid (by decide)).symm
  all_goals exact and_congr_left' ⟨fun hplain _ => hplain, fun hplain => hplain (by decide)⟩

/-- A path has no blank exactly if neither the words of the page nor the values have one. -/
theorem blankFree_path_iff (page : String) {h : Handler} {args : RouteArgs} :
    BlankFree (h.path page args).toList ↔ (∀ word ∈ pageWords page, BlankFree word) ∧
      ∀ value, h.Carries args value → BlankFree value.toList := by
  rw [path, String.toList_ofList, blankFree_intercalate_iff, List.forall_mem_append,
    blankFree_pieces_iff, List.forall_mem_map]
  simp only [blankFree_encode_iff]

/-- A path of the page of configurations begins with its name. -/
theorem exists_path_configs (h : Handler) (args : RouteArgs) :
    ∃ behind, (h.path "configs" args).toList = "configs".toList ++ behind := by
  have hwords : (pageWords "configs").map encode = ["configs".toList] := by decide +kernel
  rw [path, String.toList_ofList, hwords, List.singleton_append]
  cases h.pieces args with
  | nil => exact ⟨[], by simp⟩
  | cons piece pieces =>
      rw [List.intercalate_cons_cons, List.append_assoc]
      exact ⟨_, rfl⟩

end Handler

/-- The list needs no arguments. -/
theorem Handler.Renders.load (args : RouteArgs) : Handler.load.Renders args where
  flag _ hflag := by cases hflag
  id hrequires := by cases hrequires

/-! ### Replaying -/

section Configs

variable {table : RouteTable Handler} {h : Handler} {args : RouteArgs} {path : String}

/-- A path that is printed for the page of configurations begins with no command, and it has a blank
exactly if one of its values has. -/
theorem of_hash_configs (htable : pageTable "configs" = .ok table)
    (hhash : table.hash h args = .ok path) :
    Command.firstWord path.toList ∉ Command.leadingWords ∧
      (BlankFree path.toList ↔ ∀ value, h.Carries args value → BlankFree value.toList) := by
  obtain ⟨-, rfl⟩ := (hash_eq_ok_iff (by decide) htable).1 hhash
  have hwords : ∀ word ∈ Handler.pageWords "configs", BlankFree word := by
    have hpage : Handler.pageWords "configs" = ["configs".toList] := by decide +kernel
    rw [hpage]
    exact List.forall_mem_singleton.2 (by simp [BlankFree, isBlank])
  obtain ⟨behind, hpath⟩ := h.exists_path_configs args
  refine ⟨?_, (Handler.blankFree_path_iff "configs").trans (and_iff_right hwords)⟩
  rw [hpath]
  exact Command.firstWord_not_mem_of_configs behind

/-- A printed path without blanks is a line of its own that navigates to it. -/
theorem navigates_of_hash (htable : pageTable "configs" = .ok table)
    (hhash : table.hash h args = .ok path) (hfree : BlankFree path.toList) :
    Command.isSkipped path.toList = false ∧
      Command.parseLine path.toList = .ok (.navigate path) := by
  obtain ⟨hword, -⟩ := of_hash_configs htable hhash
  constructor
  · obtain ⟨-, rfl⟩ := (hash_eq_ok_iff (by decide) htable).1 hhash
    obtain ⟨behind, hpath⟩ := h.exists_path_configs args
    rw [Command.isSkipped, hfree.trim_eq, hpath]
    rfl
  · refine Command.parseLine_eq_navigate_iff.2 ⟨hword, ?_, hfree⟩
    rw [hfree.trim_eq, String.ofList_toList]

/-- Paths that are printed for routes have no blanks exactly if none of the values of the routes has
one. -/
theorem blankFree_paths_iff (htable : pageTable "configs" = .ok table)
    {routes : List (Handler × RouteArgs)} {paths : List String}
    (hprinted : List.Forall₂ (fun route path => table.hash route.1 route.2 = .ok path)
      routes paths) :
    (∀ path ∈ paths, BlankFree path.toList) ↔
      ∀ route ∈ routes, ∀ value, route.1.Carries route.2 value → BlankFree value.toList := by
  induction hprinted with
  | nil => exact iff_of_true (fun _ hp => by cases hp) fun _ hr => by cases hr
  | cons hhash _ ih =>
      rw [List.forall_mem_cons, List.forall_mem_cons, ih, (of_hash_configs htable hhash).2]

/-- A script of printed paths replays them exactly if none of them has a blank. -/
theorem parseScript_paths_iff {paths : List String}
    (hpaths : ∀ path ∈ paths, BlankFree path.toList →
      Command.isSkipped path.toList = false ∧
        Command.parseLine path.toList = .ok (.navigate path)) :
    Command.parseScript ("\n".intercalate paths) = .ok (paths.map .navigate) ↔
      ∀ path ∈ paths, BlankFree path.toList := by
  constructor
  · intro hscript path hpath
    exact Command.blankFree_of_mem_parseLines (mapError_eq_ok_iff.1 hscript)
      (List.mem_map_of_mem hpath)
  · intro hfree
    have hwords : ∀ l ∈ paths.map String.toList, l ≠ [] ∧ BlankFree l := by
      refine List.forall_mem_map.2 fun path hpath => ⟨fun hnil => ?_, hfree path hpath⟩
      -- An empty line would be passed over.
      have hskip := (hpaths path hpath (hfree path hpath)).1
      rw [hnil] at hskip
      cases hskip
    have hlines : lines ("\n".intercalate paths).toList = paths.map String.toList := by
      rw [String.toList_intercalate]
      exact lines_intercalate hwords
    have hnavigate : ∀ l ∈ paths.map String.toList, Command.isSkipped l = false ∧
        Command.parseLine l = .ok (.navigate (String.ofList l)) := by
      refine List.forall_mem_map.2 fun path hpath => ?_
      rw [String.ofList_toList]
      exact hpaths path hpath (hfree path hpath)
    rw [Command.parseScript, hlines, mapError_eq_ok_iff, Command.parseLines_of_navigate hnavigate,
      List.map_map]
    simp [Function.comp_def]

end Configs

/-- A path that is printed for the page of configurations is replayed as a navigation to it exactly
if no value that it carries has a blank, and so are paths on lines of their own, one after the
other. Of all lines, those navigate that are a single word and do not begin with a command; several
words that do not begin with one are refused. -/
theorem printed_paths_replay_iff {table : RouteTable Handler}
    (htable : pageTable "configs" = .ok table) :
    (∀ h args path, table.hash h args = .ok path →
      Command.firstWord path.toList ∉ Command.leadingWords ∧
      (Command.parse path = .ok (.navigate path) ↔
        ∀ value, h.Carries args value → BlankFree value.toList)) ∧
    (∀ (routes : List (Handler × RouteArgs)) (paths : List String),
      List.Forall₂ (fun route path => table.hash route.1 route.2 = .ok path) routes paths →
      (Command.parseScript ("\n".intercalate paths) = .ok (paths.map .navigate) ↔
        ∀ route ∈ routes, ∀ value, route.1.Carries route.2 value → BlankFree value.toList)) ∧
    (∀ line path, Command.parse line = .ok (.navigate path) ↔
      Command.firstWord line.toList ∉ Command.leadingWords ∧ path = trimmed line ∧
        BlankFree path.toList) ∧
    ∀ line, Command.firstWord line.toList ∉ Command.leadingWords →
      ¬ BlankFree (trimmed line).toList →
      Command.parse line = .error (.config (.badCommand .unknownCommand (trimmed line))) := by
  refine ⟨fun h args path hhash => ?_, fun routes paths hprinted => ?_,
    fun line path => Command.parse_eq_navigate_iff, fun line => Command.parse_of_several_words⟩
  · obtain ⟨hword, hblank⟩ := of_hash_configs htable hhash
    refine ⟨hword, ?_⟩
    rw [← hblank, Command.parse, mapError_eq_ok_iff]
    exact ⟨fun hline => (Command.parseLine_eq_navigate_iff.1 hline).2.2,
      fun hfree => (navigates_of_hash htable hhash hfree).2⟩
  · rw [← blankFree_paths_iff htable hprinted]
    refine parseScript_paths_iff ?_
    induction hprinted with
    | nil => exact fun _ hp => by cases hp
    | cons hhash _ ih => exact List.forall_mem_cons.2 ⟨navigates_of_hash htable hhash, ih⟩

/-- A slash and a percent sign in a name do no harm, nor does an id outside of ASCII. But the path
of a name of two words is a line of two words, which is no command. -/
theorem replay_of_two_paths :
    let created := (RouteArgs.withFlag .empty .new).set RouteArgs.idKey "é1"
    let named := RouteArgs.set .empty RouteArgs.nameKey "EUR/USD%"
    let paths := ["configs/é1/new:", "configs/name:EUR%2FUSD%25"]
    ∃ table, pageTable "configs" = .ok table ∧
      List.Forall₂ (fun route path => table.hash route.1 route.2 = .ok path)
        [(.loadNewConfigs, created), (.load, named)] paths ∧
      Command.parseScript ("\n".intercalate paths) = .ok (paths.map .navigate) ∧
      table.hash .load (RouteArgs.set .empty RouteArgs.nameKey "a b") = .ok "configs/name:a b" ∧
      Command.parse "configs/name:a b" =
        .error (.config (.badCommand .unknownCommand "configs/name:a b")) := by
  intro created named paths
  obtain ⟨table, htable⟩ : ∃ table, pageTable "configs" = .ok table :=
    ⟨_, pageTable_eq (by decide)⟩
  obtain ⟨hpath, hscript, -, hrefused⟩ := printed_paths_replay_iff htable
  have hcreated : table.hash .loadNewConfigs created = .ok "configs/é1/new:" := by
    refine (hash_eq_ok_iff (by decide) htable).2 ⟨⟨?_, fun _ => by decide⟩, by decide +kernel⟩
    rintro flag ⟨⟩
    decide
  have hnamed : table.hash .load named = .ok "configs/name:EUR%2FUSD%25" :=
    (hash_eq_ok_iff (by decide) htable).2
      ⟨.load _, by decide +kernel⟩
  have hwords : table.hash .load (RouteArgs.set .empty RouteArgs.nameKey "a b") =
      .ok "configs/name:a b" :=
    (hash_eq_ok_iff (by decide) htable).2
      ⟨.load _, by decide +kernel⟩
  have hprinted : List.Forall₂ (fun route path => table.hash route.1 route.2 = .ok path)
      [(.loadNewConfigs, created), (.load, named)] paths := .cons hcreated (.cons hnamed .nil)
  refine ⟨table, htable, hprinted, (hscript _ _ hprinted).2 ?_, hwords, ?_⟩
  · exact (blankFree_paths_iff htable hprinted).1 (by simp [paths, BlankFree, isBlank])
  · have htrimmed : trimmed "configs/name:a b" = "configs/name:a b" := by decide +kernel
    have hrefusal := hrefused _ (hpath _ _ _ hwords).1
    rw [htrimmed] at hrefusal
    exact hrefusal (by simp [BlankFree, isBlank])

end ConfigBrowser

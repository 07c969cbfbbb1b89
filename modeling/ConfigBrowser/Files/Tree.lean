import ConfigBrowser.Files.Path
import ConfigBrowser.History.Lists
import ConfigBrowser.SortedMap

/-!
# File Trees

Folders and files, as far as they matter to a run of the program. A name stands for a place, where
the text of a file is kept, so that who has a file open goes on writing to it after another file
took its name.

The tree knows the working folder and what is in it. Of what is outside it knows only what was put
there; a path is let through folders that it does not know there.

## Main results

* `FileTree.texts_of_rename`: a file keeps its text when it is renamed.
* `FileTree.mem_texts_of_write`: what was written is there.
-/

namespace ConfigBrowser

/-- Folders and files. -/
structure FileTree where
  /-- The folders inside the working folder and those that are known outside, by their normal
  forms. -/
  folders : List String
  /-- The places that names stand for, by the normal forms of the files' paths. -/
  names : SortedMap String Nat
  /-- The texts by their places, those without a name included. -/
  texts : List String
deriving DecidableEq, Repr

namespace FileTree

/-- What there is at a position. -/
inductive Node where
  | folder
  | file (place : Nat)
  | missing
deriving DecidableEq, Repr

/-- The working folder without files. -/
def empty : FileTree := ⟨[], .empty, []⟩

/-! ### Finding -/

/-- What there is at a position. -/
def node (t : FileTree) (p : Position) : Node :=
  if p.isAbove then .folder
  else
    match t.names.get? p.path with
    | some place => .file place
    | none => if t.folders.contains p.path then .folder else .missing

/-- May a path lead through the position? -/
def isFolder (t : FileTree) (p : Position) : Bool :=
  match t.node p with
  | .folder => true
  | .file _ => false
  | .missing => p.isOutside

/-- Takes a step from a folder. -/
def step (t : FileTree) (p : Position) (s : List Char) : Option Position :=
  if t.isFolder p then
    if s = Path.back then some p.up
    else if Path.isLongName s then none
    else some (p.enter s)
  else none

/-- Where a path ends. -/
def locate (t : FileTree) (path : String) : Option Position :=
  let path := path.toList
  if path = [] || Path.isRefused path then none
  else (Path.steps path).foldlM t.step (.start path)

/-- What a path leads to. What ends like a folder's path has to lead to a folder. -/
def find? (t : FileTree) (path : String) : Option Node :=
  match t.locate path with
  | none => none
  | some p => if Path.endsInFolder path.toList && !t.isFolder p then none else some (t.node p)

/-- The text of a file. -/
def read? (t : FileTree) (path : String) : Option String :=
  match t.find? path with
  | some (.file place) => t.texts[place]?
  | _ => none

/-- Does a path lead to a folder? -/
def leadsToFolder (t : FileTree) (path : String) : Bool := t.find? path = some .folder

/-! ### Writing -/

/-- The position at which a file may be written. -/
def target? (t : FileTree) (path : String) : Option Position :=
  if Path.endsInFolder path.toList then none
  else (t.locate path).filter fun p => t.node p ≠ .folder

/-- The place of a file to be written, which is made if it is not there. -/
def openFile (t : FileTree) (path : String) : Option (Nat × FileTree) :=
  (t.target? path).map fun p =>
    match t.node p with
    | .file place => (place, t)
    | _ =>
      (t.texts.length,
        { t with names := t.names.insert p.path t.texts.length, texts := t.texts ++ [""] })

/-- The tree with a text behind the one at a place. -/
def append (t : FileTree) (place : Nat) (text : String) : FileTree :=
  { t with texts := t.texts.modify place (· ++ text) }

/-- The tree with a text written to a file, in place of the one that was there. -/
def write (t : FileTree) (path text : String) : Option FileTree :=
  (t.openFile path).map fun (place, t) => { t with texts := t.texts.set place text }

/-- Gives a file another name, which it takes from the file that had it. -/
def rename (t : FileTree) (old new : String) : Option FileTree :=
  match t.target? old, t.target? new with
  | some p, some q =>
    match t.node p with
    | .file place => some { t with names := (t.names.erase p.path).insert q.path place }
    | _ => none
  | _, _ => none

/-- Makes the folder that a step leads to, where it is missing. -/
def makeStep (made : FileTree × Position) (s : List Char) : Option (FileTree × Position) :=
  let (t, p) := made
  if s = Path.back then some (t, p.up)
  else if Path.isLongName s then none
  else
    let q := p.enter s
    match t.node q with
    | .folder => some (t, q)
    | .file _ => none
    | .missing => some ({ t with folders := q.path :: t.folders }, q)

/-- Makes the folders that steps lead through, from where a path begins. -/
def makeFolders (t : FileTree) (start : Position) (way : List (List Char)) : Option FileTree :=
  if Path.isRefused (['/'].intercalate way) then none
  else (way.foldlM makeStep (t, start)).map (·.1)

/-- Makes the folders on the way to a file. -/
def makeParents (t : FileTree) (path : String) : Option FileTree :=
  t.makeFolders (.start path.toList) (Path.steps path.toList).dropLast

/-- The tree with a folder that is found at a path. -/
def putFolder (t : FileTree) (path : String) : FileTree :=
  (t.makeFolders (.start path.toList) (Path.steps path.toList)).getD t

/-- The tree with a text put into a file, the folders on the way being made. -/
def put (t : FileTree) (path text : String) : FileTree :=
  ((t.makeParents path).bind fun t => t.write path text).getD t

/-- The paths that lead to where a path leads through, from its start. -/
def waypoints (path : String) : List String :=
  let parts := Text.splitOn '/' path.toList
  let taken := (List.range parts.length).map fun n => parts.take (n + 1)
  (taken.map fun parts => String.ofList (['/'].intercalate parts)).filter (· ≠ "")

/-- The tree of named texts. -/
def ofMap (m : SortedMap String String) : FileTree :=
  m.entries.foldl (fun t (path, text) => t.put path text) empty

/-! ### Laws -/

/-- A file that is renamed keeps its text, as all others do. -/
theorem texts_of_rename {t u : FileTree} {old new : String} (h : t.rename old new = some u) :
    u.texts = t.texts := by
  rw [rename] at h
  grind

/-- A text that was written is among the texts of the tree. -/
theorem mem_texts_of_write {t u : FileTree} {path text : String}
    (hplaces : ∀ p place, t.node p = .file place → place < t.texts.length)
    (h : t.write path text = some u) : text ∈ u.texts := by
  rw [write, openFile] at h
  simp only [Option.map_map, Option.map_eq_some_iff, Function.comp] at h
  obtain ⟨p, -, rfl⟩ := h
  split
  · next place hnode => exact List.mem_iff_getElem?.2 ⟨place, by simp [hplaces p place hnode]⟩
  · simp

/-! ### History files -/

/-- The path of the draft of a file. -/
def draftPath (path : String) : String := Path.withExtension path "tmp"

/-- How the tree treats the owner of a history file whose folder is there. -/
def accessOf (t : FileTree) (path : String) : FileAccess :=
  match t.write (draftPath path) "" with
  | none => .draftRefused
  | some t => if (t.rename (draftPath path) path).isSome then .granted else .renameRefused

/-- Opens the history of a file, the folders on the way being made. -/
def openHistory (t : FileTree) (path : String) (limit : Nat) :
    Except Error History × FileTree :=
  match t.makeParents path with
  | none => (History.openFile ⟨none, none, .folderRefused⟩ limit, t)
  | some t =>
    if t.leadsToFolder path then (.error .io, t)
    else (History.openFile ⟨t.read? path, none, t.accessOf path⟩ limit, t)

/-- The tree after a history tried to save a text: it was written to the draft, which then took the
file's name. -/
def saveHistory (t : FileTree) (path text : String) : FileTree :=
  match t.write (draftPath path) text with
  | none => t
  | some t => (t.rename (draftPath path) path).getD t

end FileTree

end ConfigBrowser

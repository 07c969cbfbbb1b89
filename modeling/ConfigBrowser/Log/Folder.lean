import ConfigBrowser.SortedMap

/-!
# The Folder of a Log

Files in a folder, as far as a log can tell them apart. A name stands for a file, and a file may
outlive its name: who has it open goes on writing to it after it was renamed or removed. Files
remember when they were last changed.

A file is kept in pieces, because a file that was only made long holds nothing but zeros.

## Main results

* `File.bytes_append`: appending bytes appends them.
-/

namespace ConfigBrowser.Log

/-- A piece of a file. -/
inductive Piece where
  | zeros (count : Nat)
  | bytes (b : List UInt8)
deriving DecidableEq, Repr

namespace Piece

/-- The number of bytes. -/
def size : Piece → Nat
  | zeros count => count
  | bytes b => b.length

/-- The number of bytes in pieces. -/
def sizeAll : List Piece → Nat
  | [] => 0
  | p :: rest => p.size + sizeAll rest

/-- The bytes of a piece. -/
def toBytes : Piece → List UInt8
  | zeros count => List.replicate count 0
  | bytes b => b

/-- The first bytes of a piece. -/
def take (n : Nat) : Piece → Piece
  | zeros count => zeros (min n count)
  | bytes b => bytes (b.take n)

/-- The piece without its first bytes. -/
def drop (n : Nat) : Piece → Piece
  | zeros count => zeros (count - n)
  | bytes b => bytes (b.drop n)

/-- The first bytes of pieces. -/
def takeAll (n : Nat) : List Piece → List Piece
  | [] => []
  | p :: rest => if p.size ≤ n then p :: takeAll (n - p.size) rest else [p.take n]

/-- Pieces without their first bytes. -/
def dropAll (n : Nat) : List Piece → List Piece
  | [] => []
  | p :: rest => if p.size ≤ n then dropAll (n - p.size) rest else p.drop n :: rest

end Piece

/-- When something happened: the reading of the clock, in seconds, and a count of what happened
before. -/
structure Moment where
  seconds : Int
  tick : Nat
deriving DecidableEq, Repr

/-- Is a moment at another one or after it? -/
def Moment.notBefore (a b : Moment) : Bool :=
  b.seconds < a.seconds || (a.seconds = b.seconds && b.tick ≤ a.tick)

/-- A file. -/
structure File where
  pieces : List Piece
  /-- When the file was last changed. -/
  modified : Moment
deriving DecidableEq, Repr

namespace File

/-- The bytes of a file. -/
def bytes (f : File) : List UInt8 := f.pieces.flatMap Piece.toBytes

/-- The number of bytes. -/
def size (f : File) : Nat := Piece.sizeAll f.pieces

/-- The file with bytes at its end. -/
def append (f : File) (b : List UInt8) (now : Moment) : File := ⟨f.pieces ++ [.bytes b], now⟩

/-- The file cut, or filled with zeros, to a size. -/
def resize (f : File) (size : Nat) (now : Moment) : File :=
  if size ≤ f.size then ⟨Piece.takeAll size f.pieces, now⟩
  else ⟨f.pieces ++ [.zeros (size - f.size)], now⟩

/-- The last bytes of a file, `count` of them at most. -/
def lastBytes (f : File) (count : Nat) : List UInt8 :=
  (Piece.dropAll (f.size - count) f.pieces).flatMap Piece.toBytes

/-- What is appended stands behind the bytes of the file. -/
theorem bytes_append (f : File) (b : List UInt8) (now : Moment) :
    (f.append b now).bytes = f.bytes ++ b := by
  simp [bytes, append, Piece.toBytes]

end File

/-- A folder. -/
structure Folder where
  /-- The file that a name stands for, by its place among the files. -/
  names : SortedMap String Nat
  /-- All files, those without a name included. -/
  files : List File
deriving DecidableEq, Repr

namespace Folder

/-- The folder without files. -/
def empty : Folder := ⟨.empty, []⟩

/-- The place of the file with a name. -/
def find? (d : Folder) (name : String) : Option Nat := d.names.get? name

/-- The file with a name. -/
def file? (d : Folder) (name : String) : Option File := (d.find? name).bind (d.files[·]?)

/-- Puts a new file under a name, and gives its place. -/
def create (d : Folder) (name : String) (f : File) : Nat × Folder :=
  (d.files.length, ⟨d.names.insert name d.files.length, d.files ++ [f]⟩)

/-- Changes the file at a place. -/
def update (d : Folder) (place : Nat) (f : File → File) : Folder :=
  { d with files := d.files.modify place f }

/-- Gives a file another name, which it takes from the file that had it. -/
def rename (d : Folder) (old new : String) : Folder :=
  match d.find? old with
  | some place => { d with names := (d.names.erase old).insert new place }
  | none => d

/-- Takes the name from a file. -/
def remove (d : Folder) (name : String) : Folder := { d with names := d.names.erase name }

/-- The names with the sizes of their files. -/
def listing (d : Folder) : List (String × Nat) :=
  d.names.entries.map fun (name, place) => (name, (d.files[place]?).elim 0 File.size)

end Folder

end ConfigBrowser.Log

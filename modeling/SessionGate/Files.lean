import SessionGate.Text.Parts
import SessionGate.Text.Utf8

/-!
# Files

A file is read at the end of a path, which is followed part by part. A relative path starts in the
directory that the program was started in, and an absolute one at the root.

## Where a path leads

Only a directory has parts below it, and that includes the empty part after a slash: a file whose
name has a slash behind it is none. A path may lead up as well, and from the root it leads up to the
root. Of what is above the directory of the program only so much is known as every machine has.
-/

namespace SessionGate

open Text

/-- What stands at the end of a path. -/
inductive FileTree where
  | file (bytes : Bytes)
  | directory (entries : List (String × FileTree))

inductive PathFault where
  | missing
  | isDirectory
  | notDirectory
  /-- A name is longer than any file's. -/
  | tooLong
  deriving DecidableEq, Repr

/-- A place in a tree, with the directories above it, of which the nearest comes first. -/
structure Place where
  tree : FileTree
  above : List FileTree := []

namespace Place

/-- The directory a place is in; the root is in none, and stays. -/
def up (p : Place) : Place :=
  match p.above with
  | [] => p
  | parent :: above => ⟨parent, above⟩

/-- The most bytes in the name of a file. -/
def nameSizeLimit : Nat := 255

/-- The place that one part of a path leads to. -/
def follow (p : Place) (part : String) : Except PathFault Place :=
  match p.tree with
  | .file _ => .error .notDirectory
  | .directory entries =>
    if part = "" ∨ part = "." then .ok p
    else if part = ".." then .ok p.up
    else
      match entries.lookup part with
      | some tree => .ok ⟨tree, p.tree :: p.above⟩
      | none => .error (if nameSizeLimit < (utf8 part).length then .tooLong else .missing)

def bytes (p : Place) : Except PathFault Bytes :=
  match p.tree with
  | .file bytes => .ok bytes
  | .directory _ => .error .isDirectory

/-- What every machine has: a place for what is there for a time, and a file that is always
empty. -/
def root : Place where
  tree := .directory [("dev", .directory [("null", .file [])]), ("tmp", .directory [])]

end Place

/-- The files of the directory that a program is started in, by their names. -/
abbrev Files := List (String × Bytes)

namespace Files

/-- The directory itself. -/
def place (files : Files) : Place where
  tree := .directory (files.map fun (name, bytes) ↦ (name, .file bytes))
  above := [.directory [], Place.root.tree]

/-- Where a path begins. -/
def start (files : Files) (path : String) : Place :=
  if path.toList.head? = some '/' then Place.root else files.place

/-- The bytes of the file that a path leads to. -/
def read (files : Files) (path : String) : Except PathFault Bytes := do
  let parts := (splitOn '/' path.toList).map String.ofList
  (← parts.foldlM Place.follow (files.start path)).bytes

end Files

end SessionGate

import PlotScript.Diagnostic.Cause
import PlotScript.Text.Blank

/-!
# Files

Where a session reads files from, and a tree of files held in memory that
answers as a file system with the same files does.
-/

namespace PlotScript

/-- The bytes of the file at a path, or why they cannot be read. -/
abbrev FileSource := String → Except FileFault ByteArray

/-- The text of the file at a path. -/
def FileSource.text (files : FileSource) (path : String) : Except FileFault String :=
  match files path with
  | .error fault => .error fault
  | .ok bytes =>
      match String.fromUTF8? bytes with
      | some text => .ok text
      | none => .error .notText

/-- Files below a current directory that holds nothing else, each under the
names of the directories that lead to it and its own name. -/
structure FileTree where
  files : List (List String × ByteArray)

namespace FileTree

/-- The names in a path. -/
def components (path : String) : List String :=
  (Text.splitAt '/' path.toList).map String.ofList

/-- A tree of files given by their relative paths. -/
def ofFiles (files : List (String × ByteArray)) : FileTree :=
  ⟨files.map fun f => ((components f.1).filter (· ≠ ""), f.2)⟩

/-- The file at a place. -/
def file? (t : FileTree) (place : List String) : Option ByteArray :=
  (t.files.find? (·.1 = place)).map (·.2)

/-- Whether a place leads to files without being one. -/
def isDirectory (t : FileTree) (place : List String) : Bool :=
  t.files.any fun f => place.isPrefixOf f.1 && place.length < f.1.length

/-- How far a path leads: to a directory of the tree, or out of it. -/
inductive Place where
  | inside (place : List String)
  | outside

/-- The longest name that a file can have, in bytes. -/
def maxNameLength : Nat := 255

/-- Follows the names of a path from a directory on. Only a directory can be
left again. -/
def follow (t : FileTree) (place : Place) : List String → Except FileFault ByteArray
  | [] => .error .isDirectory
  | name :: rest =>
      if name = "" ∨ name = "." then t.follow place rest
      else if maxNameLength < name.utf8ByteSize then .error .nameTooLong
      else
        match place with
        | .outside => if name = ".." then t.follow .outside rest else .error .notFound
        | .inside place =>
            if name = ".." then
              t.follow (if place.isEmpty then .outside else .inside place.dropLast) rest
            else
              match t.file? (place ++ [name]), rest with
              | some bytes, [] => .ok bytes
              | some _, _ :: _ => .error .notDirectory
              | none, rest =>
                  if t.isDirectory (place ++ [name]) then
                    t.follow (.inside (place ++ [name])) rest
                  else .error .notFound

/-- Reads a file. An absolute path leads out of the tree. -/
def source (t : FileTree) : FileSource := fun path =>
  if path.contains '\x00' then .error .nulInName
  else if path = "" then .error .notFound
  else if path.startsWith "/" then t.follow .outside (components path)
  else t.follow (.inside []) (components path)

end FileTree

end PlotScript

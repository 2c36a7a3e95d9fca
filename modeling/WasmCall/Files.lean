/-!
# Files

A tree of folders and files, and reading of a file by its path.  A path is followed from left to
right, from the current folder or from the top; what it meets first decides why it cannot be read.
-/

namespace WasmCall

/-- A file with its bytes, or a folder with its entries. -/
inductive FileEntry where
  | file (bytes : List UInt8)
  | folder (entries : List (String × FileEntry))
  deriving Inhabited

/-- The entries of a folder. -/
abbrev Folder : Type := List (String × FileEntry)

/-- Why a file cannot be read.

* `missing`, `notFolder`, `isFolder`: what the path leads to, or where it stops.
* `nameTooLong`, `zeroByte`: the path is no path.
* `notText`: the file was to be read as a text and is none.
* `refused`: anything else that keeps the system from reading it, in its own words. -/
inductive FileFault where
  | missing
  | notFolder
  | isFolder
  | nameTooLong
  | zeroByte
  | notText
  | refused (text : String)
  deriving DecidableEq, Inhabited

/-- The text of the system for a file which cannot be read. -/
def FileFault.message : FileFault → String
  | missing => "No such file or directory (os error 2)"
  | notFolder => "Not a directory (os error 20)"
  | isFolder => "Is a directory (os error 21)"
  | nameTooLong => "File name too long (os error 36)"
  | zeroByte => "file name contained an unexpected NUL byte"
  | notText => "stream did not contain valid UTF-8"
  | refused text => text

/-- A way to read files by their paths. -/
abbrev FileReader : Type := String → Except FileFault (List UInt8)

/-- The text which some bytes encode. -/
def textOf? (bytes : List UInt8) : Option String :=
  String.fromUTF8? ⟨bytes.toArray⟩

/-- Read a file as a text. -/
def FileReader.readText (files : FileReader) (path : String) : Except FileFault String := do
  match textOf? (← files path) with
  | some s => return s
  | none => .error .notText

/-- A place in a tree of folders: the folders from the current one up to the top. -/
structure Place where
  current : Folder
  above : List Folder
  deriving Inhabited

namespace Place

/-- The folder above, or the top itself. -/
def up (p : Place) : Place :=
  match p.above with
  | [] => p
  | f :: fs => ⟨f, fs⟩

/-- The top of the tree. -/
def top (p : Place) : Place :=
  ⟨p.above.getLast?.getD p.current, []⟩

/-- The longest name of a file, in bytes. -/
def maxName : Nat := 255

/-- The longest path, in bytes. -/
def maxPath : Nat := 4095

/-- Follow the parts of a path.  A name which is empty or a single point stays where it is. -/
def follow (p : Place) : List String → Except FileFault (List UInt8)
  | [] => .error .isFolder
  | name :: rest =>
    if name = "" ∨ name = "." then p.follow rest
    else if name = ".." then p.up.follow rest
    else if maxName < name.utf8ByteSize then .error .nameTooLong
    else
      match p.current.lookup name with
      | none => .error .missing
      | some (.folder entries) => follow ⟨entries, p.current :: p.above⟩ rest
      | some (.file bytes) => if rest.isEmpty then .ok bytes else .error .notFolder

/-- Reading of files from a place. -/
def reader (p : Place) : FileReader := fun path =>
  if path.contains '\x00' then .error .zeroByte
  else if path.isEmpty then .error .missing
  else if maxPath < path.utf8ByteSize then .error .nameTooLong
  else
    let start := if path.startsWith "/" then p.top else p
    start.follow (path.splitOn "/")

end Place

end WasmCall

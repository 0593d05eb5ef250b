import ThreatAnalysis.Files.Path
import ThreatAnalysis.Platform
import ThreatAnalysis.Text.Quoted

/-!
File trees: files and directories at locations, seen from a working directory. A path is followed
name by name, and each name but the last must lead to a directory. Operations that change the tree
give back the changed tree, and an operation that fails says why and on which path. Names and paths
that are too long, or hold a null character, are refused before the tree is asked: a path as a
whole at first, a name once it is looked up in a directory.
-/
namespace ThreatAnalysis

/-- The content of a file: a text, or bytes that are the encoding of none. -/
inductive Content where
  | text (text : String)
  | binary (bytes : ByteArray)

/-- The content made up by bytes. -/
def Content.ofBytes (bytes : ByteArray) : Content :=
  match String.fromUTF8? bytes with
  | some decoded => .text decoded
  | none => .binary bytes

/-- What stands at a location. -/
inductive Entry where
  | file (content : Content)
  | directory

/-- The names that lead from the root of a tree to an entry. -/
abbrev Location := List String

/-- Whether two locations are the same. Those of different depths are told apart by that alone. -/
def Location.same (location other : Location) : Bool :=
  location.length == other.length && location == other

theorem Location.same_iff {location other : Location} :
    location.same other = true ↔ location = other := by
  simp only [Location.same, Bool.and_eq_true, beq_iff_eq]
  exact ⟨fun h => h.2, fun h => ⟨congrArg List.length h, h⟩⟩

/-- Why an operation on files fails. -/
inductive FileCause where
  | notFound
  | exists
  | notDirectory
  | isDirectory
  /-- A name, or a path as a whole, has too many bytes. -/
  | nameTooLong
  /-- The path holds a null character, with which no file system is even asked. -/
  | nullInPath
deriving DecidableEq, Repr

/-- A failed operation on files, with the path it failed on. -/
structure FileError where
  cause : FileCause
  path : Path
deriving DecidableEq, Repr

namespace FileCause

/-- The name under which a failure is reported. -/
def name : FileCause → String
  | .notFound => "FileNotFoundError"
  | .exists => "FileExistsError"
  | .notDirectory => "NotADirectoryError"
  | .isDirectory => "IsADirectoryError"
  | .nameTooLong => "OSError"
  | .nullInPath => "ValueError"

/-- The text of a failure. -/
def message : FileCause → String
  | .notFound => "[Errno 2] No such file or directory"
  | .exists => "[Errno 17] File exists"
  | .notDirectory => "[Errno 20] Not a directory"
  | .isDirectory => "[Errno 21] Is a directory"
  | .nameTooLong => "[Errno 36] File name too long"
  | .nullInPath => "embedded null character"

/-- Whether a failure to find an entry only says that there is none. -/
def isAbsence : FileCause → Bool
  | .notFound => true
  | .notDirectory => true
  | .nullInPath => true
  | _ => false

end FileCause

/-- The text of an error. -/
def FileError.message (error : FileError) : String :=
  error.cause.message ++ ": " ++ Text.quoted error.path.toString

/-- Files and directories. An entry counts only where no earlier one has its location. -/
structure FileTree where
  entries : List (Location × Entry)

namespace FileTree

/-- The location of the working directory. -/
def workingDirectory : Location := ["home", "work"]

/-- The location of the rules that come with the program. -/
def bundledDirectory : Location := ["share", "rules"]

/-- What stands at a location. The root is always a directory. -/
def find? (tree : FileTree) (location : Location) : Option Entry :=
  if location = [] then some .directory
  else (tree.entries.find? fun (other, _) => location.same other).map (·.2)

/-- Puts an entry at a location, in place of what stands there. -/
def put (tree : FileTree) (location : Location) (entry : Entry) : FileTree :=
  ⟨(location, entry) :: tree.entries.filter fun (other, _) => !location.same other⟩

/-- Puts an entry where the names lead from a location, and directories at the locations on the way
where nothing stands. -/
def placeFrom (tree : FileTree) (around : Location) (names : List String) (entry : Entry) :
    FileTree :=
  match names with
  | [] => tree.put around entry
  | name :: rest =>
    let tree := match tree.find? around with
      | some _ => tree
      | none => tree.put around .directory
    tree.placeFrom (around ++ [name]) rest entry

/-- Puts an entry at a location, and directories around it where nothing stands. -/
def place (tree : FileTree) (location : Location) (entry : Entry) : FileTree :=
  tree.placeFrom [] location entry

/-- Removes the entry at a location and all below it. -/
def remove (tree : FileTree) (location : Location) : FileTree :=
  ⟨tree.entries.filter fun (other, _) => !location.isPrefixOf other⟩

/-- Where a step leads from a directory. -/
def stepTo (location : Location) (name : String) : Location :=
  if name = "." then location
  else if name = ".." then location.dropLast
  else location ++ [name]

/-- How many bytes a name may have. -/
def longestName : Nat := 255

/-- How many bytes a path may have. -/
def longestPath : Nat := 4095

/-- What is wrong with the text of a path, whatever the tree holds. -/
def textFault? (text : String) : Option FileCause :=
  if text.toList.contains '\x00' then some .nullInPath
  else if longestPath < text.utf8ByteSize then some .nameTooLong
  else none

/-- Follows names from a location. The last one need not lead to an entry. -/
def follow (tree : FileTree) : Location → List String → Except FileCause Location
  | location, [] => .ok location
  | location, name :: rest =>
    match tree.find? location with
    | some .directory =>
      if longestName < name.utf8ByteSize then .error .nameTooLong
      else tree.follow (stepTo location name) rest
    | some (.file _) => .error .notDirectory
    | none => .error .notFound

/-- Follows names from a location, unless the text that holds them is no path. -/
def followText (tree : FileTree) (text : String) (location : Location) (names : List String) :
    Except FileCause Location :=
  match textFault? text with
  | some cause => .error cause
  | none => tree.follow location names

/-- The location at which paths start. -/
def start : Anchor → Location
  | .here => workingDirectory
  | .root => []
  | .doubleRoot => []
  | .bundled => bundledDirectory

/-- The location of a path on whose way every name is that of a directory. -/
def destination (path : Path) : Location :=
  path.parts.foldl stepTo (start path.anchor)

/-- The location of a path. -/
def locate (tree : FileTree) (path : Path) : Except FileCause Location :=
  tree.followText path.toString (start path.anchor) path.parts

/-- The entry of a path. -/
def entry (tree : FileTree) (path : Path) : Except FileCause Entry := do
  match tree.find? (← tree.locate path) with
  | some entry => .ok entry
  | none => .error .notFound

/-- The entry that a written name leads to. Unlike the path read from it, a name that ends in a
slash leads to nothing but a directory, and the empty name leads nowhere. -/
def named (tree : FileTree) (name : String) : Except FileCause Entry := do
  if name.isEmpty then .error .notFound
  else
    let anchor := Path.anchorOf name.toList
    let location ← tree.followText name (start anchor) (Path.steps name)
    match tree.find? location with
    | some entry => .ok entry
    | none => .error .notFound

/-- What a path leads to, if anything. It fails if it stays open whether there is an entry. -/
def inspect (tree : FileTree) (path : Path) : Except FileError (Option Entry) :=
  match tree.entry path with
  | .ok entry => .ok (some entry)
  | .error cause => if cause.isAbsence then .ok none else .error ⟨cause, path⟩

/-- Whether a path leads to an entry. -/
def contains (tree : FileTree) (path : Path) : Except FileError Bool :=
  (tree.inspect path).map (·.isSome)

/-- Whether a path leads to a file. -/
def isFile (tree : FileTree) (path : Path) : Except FileError Bool :=
  (tree.inspect path).map (· matches some (.file _))

/-- Whether a path leads to a directory. -/
def isDirectory (tree : FileTree) (path : Path) : Except FileError Bool :=
  (tree.inspect path).map (· matches some .directory)

/-- The content of a file. -/
def read (tree : FileTree) (path : Path) : Except FileError Content :=
  match tree.entry path with
  | .ok (.file content) => .ok content
  | .ok .directory => .error ⟨.isDirectory, path⟩
  | .error cause => .error ⟨cause, path⟩

/-- Writes a file, in place of one that stands there. -/
def write (tree : FileTree) (path : Path) (content : Content) : Except FileError FileTree :=
  match tree.locate path with
  | .error cause => .error ⟨cause, path⟩
  | .ok location =>
    match tree.find? location with
    | some .directory => .error ⟨.isDirectory, path⟩
    | _ => .ok (tree.put location (.file content))

/-- Adds a name to names in ascending order, unless it is among them. -/
def insertName (name : String) : List String → List String
  | [] => [name]
  | other :: rest =>
    if name < other then name :: other :: rest
    else if name = other then other :: rest
    else other :: insertName name rest

/-- The name of an entry in a directory. -/
def nameIn? (directory location : Location) : Option String :=
  if location.dropLast = directory then location.getLast? else none

/-- The names in a directory, in ascending order by code points. -/
def names (tree : FileTree) (directory : Location) : List String :=
  (tree.entries.filterMap fun (location, _) => nameIn? directory location).foldr insertName []

/-- The names in the directory of a path. -/
def list (tree : FileTree) (path : Path) : Except FileError (List String) :=
  match tree.locate path with
  | .error cause => .error ⟨cause, path⟩
  | .ok location =>
    match tree.find? location with
    | some .directory => .ok (tree.names location)
    | some (.file _) => .error ⟨.notDirectory, path⟩
    | none => .error ⟨.notFound, path⟩

/-- Makes a directory where nothing stands, in a directory that exists. -/
def makeDirectory (tree : FileTree) (path : Path) : Except FileError FileTree :=
  match tree.locate path with
  | .error cause => .error ⟨cause, path⟩
  | .ok location =>
    match tree.find? location with
    | some _ => .error ⟨.exists, path⟩
    | none => .ok (tree.put location .directory)

/-- The outcome of an operation that may have changed the tree even if it failed. -/
abbrev Effect (α : Type) := FileTree × Except FileError α

/-- A failure to make a directory does not count where a directory stands, whose location comes
back. -/
def unlessDirectory (tree : FileTree) (path : Path) (error : FileError) : Effect Location :=
  match tree.isDirectory path with
  | .ok true => (tree, .ok (destination path))
  | .ok false => (tree, .error error)
  | .error unclear => (tree, .error unclear)

/-- Makes a directory with a name in the directory at a location. -/
def makeIn (tree : FileTree) (around : Location) (name : String) : Except FileCause FileTree :=
  if longestName < name.utf8ByteSize then .error .nameTooLong
  else
    match tree.find? (stepTo around name) with
    | some _ => .error .exists
    | none => .ok (tree.put (stepTo around name) .directory)

/-- Makes a directory, and first those around it that are missing, and gives back its location. The
names of its path are given from the last one to the first. -/
def makeReversed (tree : FileTree) (anchor : Anchor) : List String → Effect Location
  | [] => unlessDirectory tree ⟨anchor, []⟩ ⟨.notFound, ⟨anchor, []⟩⟩
  | name :: before =>
    let path : Path := ⟨anchor, (name :: before).reverse⟩
    match tree.makeDirectory path with
    | .ok tree => (tree, .ok (destination path))
    | .error error =>
      if error.cause = .notFound then
        match makeReversed tree anchor before with
        | (tree, .error error) => (tree, .error error)
        | (tree, .ok around) =>
          match tree.makeIn around name with
          | .ok tree => (tree, .ok (stepTo around name))
          | .error cause => unlessDirectory tree path ⟨cause, path⟩
      else unlessDirectory tree path error

/-- Makes a directory, and first those around it that are missing. It may exist already. -/
def makeDirectories (tree : FileTree) (path : Path) : Effect Location :=
  tree.makeReversed path.anchor path.parts.reverse

/-- How many directories in a row are missing, from the innermost one on. The names of the path are
given from the last one to the first. -/
def missing (tree : FileTree) (anchor : Anchor) : List String → Nat
  | [] => 0
  | name :: before =>
    match tree.makeDirectory ⟨anchor, (name :: before).reverse⟩ with
    | .ok _ => 1
    | .error error => if error.cause = .notFound then tree.missing anchor before + 1 else 0

/-- Whether more directories are missing than can be made at once. -/
def lacksTooMany [Platform] (tree : FileTree) (path : Path) : Bool :=
  Platform.mostAtOnce < tree.missing path.anchor path.parts.reverse

end FileTree
end ThreatAnalysis

import Chip8.Journal
/-!
# Files

A directory with files and folders in it, from which programs are read. A
path is walked name by name: an empty name and `.` stay where they are, `..`
goes up, and each of them needs a folder to start from. What lies outside
the directory is taken to be folders with nothing else in them. The length of
a path is limited, and so is that of a name where it is looked up; both are
counted in bytes.
-/

namespace Chip8

/-- Why a file could not be read. -/
inductive ReadError where
  /-- There is nothing at the path. -/
  | notFound
  /-- The path leads to a folder. -/
  | isFolder
  /-- The path goes on behind a file. -/
  | notFolder
  /-- No file can have the name. -/
  | badName
  /-- The path, or a name in it, is too long. -/
  | nameTooLong
  deriving DecidableEq, Repr

/-- A directory: the places in it, each with the contents of a file or, for a
folder, without, the latest first. The folders that hold a place need not be
listed. -/
structure Files where
  entries : List (List String × Option (List UInt8))
  deriving DecidableEq, Repr

namespace Files

/-- The longest name. -/
def longestName : Nat := 255

/-- The longest path. -/
def longestPath : Nat := 4095

/-- What lies at a place. -/
inductive Node where
  | file (contents : List UInt8)
  | folder
  deriving DecidableEq, Repr

/-- The names that a path is made of. -/
def names (path : List Char) : List String :=
  match path with
  | [] => [""]
  | c :: rest =>
    if c = '/' then "" :: names rest
    else
      match names rest with
      | [] => [String.singleton c]
      | name :: others => (String.singleton c ++ name) :: others

/-- Follows a path from the folders that it has passed, innermost first, to the
place where it ends, with all the folders passed on the way. A path that leaves
the directory leads nowhere. -/
def follow (passed : List (List String)) (place : List String) :
    List String → Option (List String × List (List String))
  | [] => some (place, passed)
  | name :: rest =>
    if name = "" ∨ name = "." then follow passed place rest
    else if name ≠ ".." then follow (place :: passed) (place ++ [name]) rest
    else if place.isEmpty then none
    else follow (place :: passed) place.dropLast rest

/-- The directory with one more path in it. What was at the path is replaced,
and the folders on the way are there. -/
def insert (files : Files) (path : String) (contents : Option (List UInt8)) : Files :=
  match follow [] [] (names path.toList) with
  | none => files
  | some (place, passed) =>
    ⟨(place, contents) :: passed.map (·, none) ++ files.entries⟩

/-- A directory from paths with their contents, put in one after the other. -/
def ofList (entries : List (String × Option (List UInt8))) : Files :=
  entries.foldl (fun files (path, contents) => files.insert path contents) ⟨[]⟩

/-- What lies at a place inside the directory. -/
def node? (files : Files) (place : List String) : Option Node :=
  match files.entries.find? fun entry => entry.1 = place with
  | some (_, some contents) => some (.file contents)
  | some (_, none) => some .folder
  | none =>
    if place.isEmpty || files.entries.any fun entry => place.isPrefixOf entry.1 then some .folder
    else none

/-- A stage of a walk: a place in the directory, or somewhere outside it. -/
abbrev Stage : Type := Option (List String)

/-- What lies at a stage of a walk. -/
def nodeAt (files : Files) : Stage → Option Node
  | some place => files.node? place
  | none => some .folder

/-- Walks on by one name, from a folder. -/
def advance (files : Files) (stage : Stage) (name : String) : Except ReadError Stage :=
  match files.nodeAt stage with
  | none => .error .notFound
  | some (.file _) => .error .notFolder
  | some .folder =>
    if name = "" ∨ name = "." then .ok stage
    else if name.utf8ByteSize > longestName then .error .nameTooLong
    else
      match stage with
      | none => if name = ".." then .ok none else .error .notFound
      | some place =>
        if name = ".." then .ok (if place.isEmpty then none else some place.dropLast)
        else if (files.node? (place ++ [name])).isSome then .ok (some (place ++ [name]))
        else .error .notFound

/-- Reads the file at a path. -/
def read (files : Files) (path : String) : Except ReadError (List UInt8) := do
  if path.contains '\x00' then throw .badName
  if path = "" then throw .notFound
  if path.utf8ByteSize > longestPath then throw .nameTooLong
  let start : Stage := if path.toList.head? = some '/' then none else some []
  let stage ← (names path.toList).foldlM files.advance start
  match files.nodeAt stage with
  | some (.file contents) => return contents
  | some .folder => throw .isFolder
  | none => throw .notFound

end Files

/-- What is noted when a file has been read. -/
def readingNote (path : String) (contents : List UInt8) : Entry :=
  ⟨.info, "Read " ++ toString contents.length ++ " bytes from " ++ path⟩

end Chip8

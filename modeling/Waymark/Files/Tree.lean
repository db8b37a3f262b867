import Waymark.Files.Path

/-!
# Files

Files and directories below a working directory, and what can go wrong with them. Nothing outside is
known: an absolute path is a path of nothing, and the directory around the working directory is the
working directory.
-/

namespace Waymark

/-- Why a file or a directory cannot be used. -/
inductive FileError
  | notFound
  | alreadyExists
  | notADirectory
  | isADirectory
  | nameTooLong
  | zeroInPath
  | notText
  deriving DecidableEq, Repr

namespace FileError

/-- The error as a message tells it. -/
def message : FileError → String
  | notFound => "No such file or directory (os error 2)"
  | alreadyExists => "File exists (os error 17)"
  | notADirectory => "Not a directory (os error 20)"
  | isADirectory => "Is a directory (os error 21)"
  | nameTooLong => "File name too long (os error 36)"
  | zeroInPath => "file name contained an unexpected NUL byte"
  | notText => "stream did not contain valid UTF-8"

end FileError

/-- What a path may lead to. -/
inductive FileEntry
  | directory
  | file (content : ByteArray)

instance : DecidableEq FileEntry
  | .directory, .directory => isTrue rfl
  | .file a, .file b =>
    match ByteArray.instDecidableEq a b with
    | isTrue h => isTrue (congrArg FileEntry.file h)
    | isFalse h => isFalse fun heq => h (FileEntry.file.inj heq)
  | .directory, .file _ => isFalse nofun
  | .file _, .directory => isFalse nofun

/-- A place of a file or a directory: its name and the names of the directories around it, the
outermost last. -/
abbrev FilePlace := List String

/-- Files and directories. The entry that was made last for a place is the one that counts. -/
structure FileTree where
  entries : List (FilePlace × FileEntry) := []
  deriving DecidableEq, Inhabited

namespace FileTree

/-- What is at a place. The working directory is always there. -/
def lookup? (t : FileTree) (place : FilePlace) : Option FileEntry :=
  if place = [] then some .directory else t.entries.lookup place

/-- The tree with an entry at a place. -/
def put (t : FileTree) (place : FilePlace) (e : FileEntry) : FileTree :=
  ⟨(place, e) :: t.entries⟩

/-- The place that a name leads to from a place, which must be a directory. -/
def step (t : FileTree) (place : FilePlace) (name : String) : Except FileError FilePlace :=
  match t.lookup? place with
  | none => .error .notFound
  | some (.file _) => .error .notADirectory
  | some .directory =>
    if name = "." then .ok place
    else if name = ".." then .ok place.tail
    else if 255 < name.utf8ByteSize then .error .nameTooLong
    else .ok (name :: place)

/-- The place that some names lead to from the working directory. There may be nothing at it. -/
def follow (t : FileTree) (names : List String) : Except FileError FilePlace :=
  names.foldlM t.step []

/-- The place that a path leads to. There may be nothing at it. -/
def locate (t : FileTree) (path : String) : Except FileError FilePlace :=
  if path.toList.contains '\x00' then .error .zeroInPath
  else if path.isEmpty || Path.isAbsolute path then .error .notFound
  else if 4096 ≤ path.utf8ByteSize then .error .nameTooLong
  else t.follow (Path.names path ++ if Path.endsWithSlash path then ["."] else [])

/-- What a path leads to. -/
def find? (t : FileTree) (path : String) : Option FileEntry :=
  match t.locate path with
  | .ok place => t.lookup? place
  | .error _ => none

/-- Whether a path leads to something. -/
def has (t : FileTree) (path : String) : Bool :=
  (t.find? path).isSome

/-- Whether a path leads to a directory. -/
def isDirectory (t : FileTree) (path : String) : Bool :=
  t.find? path = some .directory

/-- The content of a file. -/
def read (t : FileTree) (path : String) : Except FileError ByteArray := do
  match t.lookup? (← t.locate path) with
  | none => .error .notFound
  | some .directory => .error .isADirectory
  | some (.file content) => .ok content

/-- The content of a file as a text. -/
def readText (t : FileTree) (path : String) : Except FileError String := do
  match String.fromUTF8? (← t.read path) with
  | some text => .ok text
  | none => .error .notText

/-- Write a file, which is made if there is none. A path that ends with a slash is no path of a file. -/
def write (t : FileTree) (path : String) (content : ByteArray) : Except FileError FileTree :=
  if Path.endsWithSlash path && !Path.isAbsolute path then do
    let _ ← t.follow (Path.names path)
    .error .isADirectory
  else do
    let place ← t.locate path
    if t.lookup? place = some .directory then .error .isADirectory else .ok (t.put place (.file content))

/-- Make a directory. -/
def makeDirectory (t : FileTree) (names : List String) : Except FileError FileTree := do
  let place ← t.follow names
  if (t.lookup? place).isSome then .error .alreadyExists else .ok (t.put place .directory)

/-- Whether some names lead to a directory. -/
def leadsToDirectory (t : FileTree) (names : List String) : Bool :=
  match t.follow names with
  | .ok place => t.lookup? place = some .directory
  | .error _ => false

/-- Make a directory if it is not there. -/
def ensureDirectory (t : FileTree) (names : List String) : FileTree × Except FileError Unit :=
  match t.makeDirectory names with
  | .ok t => (t, .ok ())
  | .error e => (t, if t.leadsToDirectory names then .ok () else .error e)

/-- Make a directory and the ones around it, as far as they are not there. The names come with the
innermost directory first. Directories that were made stay if a later one cannot be made. -/
def ensureAll (t : FileTree) : List String → FileTree × Except FileError Unit
  | [] => (t, .ok ())
  | name :: outer =>
    match t.ensureDirectory (name :: outer).reverse with
    | (t, .error .notFound) =>
      match t.ensureAll outer with
      | (t, .ok ()) => t.ensureDirectory (name :: outer).reverse
      | failed => failed
    | done => done

/-- Make the directory that a path leads to, and the ones around it. -/
def ensurePath (t : FileTree) (path : String) : FileTree × Except FileError Unit :=
  if path.toList.contains '\x00' then (t, .error .zeroInPath)
  else if Path.isAbsolute path then (t, .error .notFound)
  else if 4096 ≤ path.utf8ByteSize then (t, .error .nameTooLong)
  else t.ensureAll (Path.components path).reverse

/-- Make the directories around the file that a path leads to. -/
def ensureAround (t : FileTree) (path : String) : FileTree × Except FileError Unit :=
  if path.toList.contains '\x00' then (t, .error .zeroInPath)
  else if Path.isAbsolute path then (t, .error .notFound)
  else t.ensureAll (Path.components path).dropLast.reverse

end FileTree

end Waymark

import FootprintTemplate.Text.Pieces

/-! Files as a command sees them, and a tree of files and directories that stands for a disk. -/
namespace FootprintTemplate.CommandLine

inductive FileError where
  | notFound
  | notADirectory
  | isADirectory
  | nameTooLong
  | notText
  | other (text : String)
deriving DecidableEq, Repr

def FileError.message : FileError → String
  | notFound => "No such file or directory (os error 2)"
  | notADirectory => "Not a directory (os error 20)"
  | isADirectory => "Is a directory (os error 21)"
  | nameTooLong => "File name too long (os error 36)"
  | notText => "stream did not contain valid UTF-8"
  | other text => text

/-- What a command does with files. A path that leads to something has one resolved form. -/
structure FileSystem (m : Type → Type) where
  read : String → m (Except FileError ByteArray)
  write : String → String → m (Except FileError Unit)
  resolve : String → m (Option (List String))

def pathNames (path : String) : List String :=
  (Text.pieces '/' path.toList).map String.ofList

/-- The parts of a path by which two paths are compared when one leads nowhere: empty names and dots
do not count, but a slash or a dot at the start does. -/
def pathParts (path : String) : List String :=
  match pathNames path with
  | [] => []
  | first :: rest =>
    (if first == "" then "/" else first) :: rest.filter fun name => name != "" && name != "."

/-- Files and directories by their places, the names on the way to them from the root. -/
structure FileTree where
  files : List (List String × ByteArray)
  dirs : List (List String)
  /-- The place from which paths lead that do not start with a slash. -/
  working : List String

inductive Entry where
  | file (content : ByteArray)
  | directory

namespace FileTree

def entry? (tree : FileTree) (place : List String) : Option Entry :=
  if place.isEmpty || tree.dirs.contains place then some .directory
  else (tree.files.lookup place).map .file

/-- The longest name that a file can have, in bytes. -/
def maxName : Nat := 255

/-- The longest path that can be read or written, in bytes. -/
def maxPath : Nat := 4095

/-- Follows names one after the other. All but the last have to lead to directories. -/
def walk (tree : FileTree) (place : List String) : List String → Except FileError (List String)
  | [] => .ok place
  | name :: rest =>
    match tree.entry? place with
    | none => .error .notFound
    | some (.file _) => .error .notADirectory
    | some .directory =>
      if name == "" || name == "." then walk tree place rest
      else if name == ".." then walk tree place.dropLast rest
      else if maxName < name.utf8ByteSize then .error .nameTooLong
      else walk tree (place ++ [name]) rest

/-- The place that names lead to. An empty first name is a slash before all others. -/
def follow (tree : FileTree) : List String → Except FileError (List String)
  | "" :: names => tree.walk [] names
  | names => tree.walk tree.working names

/-- What stands at the place that names lead to. -/
def reach (tree : FileTree) (names : List String) : Except FileError (List String × Entry) :=
  match tree.follow names with
  | .error error => .error error
  | .ok place =>
    match tree.entry? place with
    | none => .error .notFound
    | some entry => .ok (place, entry)

def read (tree : FileTree) (path : String) : Except FileError ByteArray :=
  if maxPath < path.utf8ByteSize then .error .nameTooLong
  else match tree.reach (pathNames path) with
    | .error error => .error error
    | .ok (_, .directory) => .error .isADirectory
    | .ok (_, .file content) => .ok content

/-- Gives a file new content, or adds it. -/
def put (tree : FileTree) (place : List String) (content : ByteArray) : FileTree :=
  { tree with files := (place, content) :: tree.files.filter (·.1 != place) }

/-- Writes a file of a directory. An empty name, or dots, are names of no file. -/
def writeIn (tree : FileTree) (place : List String) (name text : String) :
    Except FileError FileTree :=
  if name == "" || name == "." || name == ".." then .error .isADirectory
  else if maxName < name.utf8ByteSize then .error .nameTooLong
  else match tree.entry? (place ++ [name]) with
    | some .directory => .error .isADirectory
    | some (.file _) | none => .ok (tree.put (place ++ [name]) text.toUTF8)

/-- The names that lead to the last one of a path, and that one. It is empty if a slash follows. -/
def splitName (path : String) : List String × String :=
  let names := (pathNames path).reverse
  match names.dropWhile (· == "") with
  | [] => ([""], "")
  | name :: before =>
    (before.reverse, if before.length + 1 == names.length then name else "")

/-- A path that ends in a slash is the path of no file. -/
def write (tree : FileTree) (path text : String) : Except FileError FileTree :=
  let (names, name) := splitName path
  if maxPath < path.utf8ByteSize then .error .nameTooLong
  else match tree.reach names with
    | .error error => .error error
    | .ok (_, .file _) => .error .notADirectory
    | .ok (place, .directory) => tree.writeIn place name text

/-- The place that a path of any length leads to, if something is there. -/
def resolve (tree : FileTree) (path : String) : Option (List String) :=
  match tree.reach (pathNames path) with
  | .error _ => none
  | .ok (place, _) => some place

/-- The tree as the files of a command. A write that fails leaves it as it was. -/
def system : FileSystem (StateM FileTree) where
  read path := do return (← get).read path
  write path text := do
    match (← get).write path text with
    | .error error => return .error error
    | .ok tree => set tree; return .ok ()
  resolve path := do return (← get).resolve path

end FileTree

end FootprintTemplate.CommandLine

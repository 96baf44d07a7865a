import AgentFeed.Disk.Content
import AgentFeed.Disk.Path
import AgentFeed.Table

/-!
# File trees

The directories and files of a disk as a value, with the operations a program performs on them. A
node is found by the list of names that leads to it from the root; the root is always there.

A path is followed one name at a time: every name but the last must lead to a directory, two dots go
back up, and a name has at most 255 bytes. A path that ends in a slash means a directory. A path has
at most 4095 bytes and no null character.

A disk may hold files that are not to be written, which is all there is of permissions here: they
can be read and removed like others.
-/

namespace AgentFeed

/-- Why a file operation fails. -/
inductive DiskError where
  /-- There is nothing at the path. -/
  | notFound
  /-- The path goes on where there is no directory. -/
  | notDirectory
  /-- There is a directory where a file is meant. -/
  | isDirectory
  /-- A name in the path, or the whole path, has too many bytes. -/
  | nameTooLong
  /-- The path has a null character. -/
  | nullCharacter
  /-- The content is no text. -/
  | notText
  /-- The file is not to be written. -/
  | readOnly
deriving DecidableEq, Repr

/-- What is at a place in a tree. -/
inductive Node where
  /-- A directory. -/
  | directory
  /-- A file. -/
  | file (content : FileContent)
deriving DecidableEq

/-- A disk: what is at each place, the directory that relative paths start from, and the places where
no file is written. -/
structure FileTree where
  /-- The nodes, by the names that lead to them from the root. -/
  nodes : Table (List String) Node := []
  /-- The working directory. -/
  workingDirectory : List String := []
  /-- The places where no file is written. -/
  readOnly : List (List String) := []

namespace FileTree

/-! ## 1. Looking -/

/-- The greatest number of bytes in a name. -/
def nameLimit : Nat := 255

/-- The greatest number of bytes in a path. -/
def pathLimit : Nat := 4095

/-- Why a path leads nowhere whatever is on the disk. -/
def pathFault? (path : String) : Option DiskError :=
  if path.toList.contains '\x00' then some .nullCharacter
  else if pathLimit < path.utf8ByteSize then some .nameTooLong
  else if path = "" then some .notFound
  else none

/-- What is at a place. -/
def node? (t : FileTree) (place : List String) : Option Node :=
  if place = [] then some .directory else t.nodes.get? place

/-- That a place is a directory. -/
def requireDirectory (t : FileTree) (place : List String) : Except DiskError Unit :=
  match t.node? place with
  | some .directory => .ok ()
  | some (.file _) => .error .notDirectory
  | none => .error .notFound

/-- The place that names lead to from another place. -/
def follow (t : FileTree) (place : List String) : List String → Except DiskError (List String)
  | [] => .ok place
  | name :: rest => do
    t.requireDirectory place
    if name = "" || name = "." then t.follow place rest
    else if name = ".." then t.follow place.dropLast rest
    else if nameLimit < name.utf8ByteSize then .error .nameTooLong
    else t.follow (place ++ [name]) rest

/-- The place that a path starts from. -/
def start (t : FileTree) (path : String) : List String :=
  if Path.isAbsolute path then [] else t.workingDirectory

/-- The place that a path leads to. -/
def place (t : FileTree) (path : String) : Except DiskError (List String) :=
  match pathFault? path with
  | some fault => .error fault
  | none => t.follow (t.start path) (Path.pieces path)

/-- What is at the end of a path. -/
def lookup (t : FileTree) (path : String) : Except DiskError Node := do
  match t.node? (← t.place path) with
  | some node => .ok node
  | none => .error .notFound

/-- Whether there is anything at the end of a path. -/
def pathExists (t : FileTree) (path : String) : Bool :=
  (t.lookup path).isOk

/-- Whether a path leads to a directory. -/
def isDirectory (t : FileTree) (path : String) : Bool :=
  match t.lookup path with
  | .ok .directory => true
  | _ => false

/-- Whether a path leads to a file. -/
def isFile (t : FileTree) (path : String) : Bool :=
  match t.lookup path with
  | .ok (.file _) => true
  | _ => false

/-! ## 2. Files -/

/-- The content of a file. -/
def read (t : FileTree) (path : String) : Except DiskError FileContent := do
  match ← t.lookup path with
  | .directory => .error .isDirectory
  | .file content => .ok content

/-- The text of a file. -/
def readText (t : FileTree) (path : String) : Except DiskError String := do
  match (← t.read path).text? with
  | some text => .ok text
  | none => .error .notText

/-- The tree with a node at a place. -/
def put (t : FileTree) (place : List String) (node : Node) : FileTree :=
  { t with nodes := t.nodes.insert place node }

/-- The tree without the node at a place. -/
def remove (t : FileTree) (place : List String) : FileTree :=
  { t with nodes := t.nodes.erase place }

/-- The tree with a file at the end of a path, its content a function of the content so far. -/
def changeFile (t : FileTree) (path : String) (change : Option FileContent → FileContent) :
    Except DiskError FileTree := do
  let place ← t.place path
  if t.readOnly.contains place then .error .readOnly
  else
    match t.node? place with
    | some .directory => .error .isDirectory
    | some (.file content) => .ok (t.put place (.file (change (some content))))
    | none => .ok (t.put place (.file (change none)))

/-- The tree with a file of the given content at the end of a path. -/
def write (t : FileTree) (path : String) (content : FileContent) : Except DiskError FileTree :=
  t.changeFile path fun _ => content

/-- The tree with a text behind the content of a file, which is created when it is missing. -/
def appendText (t : FileTree) (path text : String) : Except DiskError FileTree :=
  t.changeFile path fun content => (content.getD (.text "")).appendText text

/-- The tree without a file. -/
def removeFile (t : FileTree) (path : String) : Except DiskError FileTree := do
  let place ← t.place path
  match t.node? place with
  | none => .error .notFound
  | some .directory => .error .isDirectory
  | some (.file _) => .ok (t.remove place)

/-! ## 3. Directories -/

/-- Names are made to lead to a directory from a place. What was made stays when a later name fails. A
dot behind the last name asks for a directory that is there before. -/
def createFrom (t : FileTree) (place : List String) : List String → Except DiskError Unit × FileTree
  | [] => (.ok (), t)
  | name :: rest =>
    if name = "" || name = "." then t.createFrom place rest
    else if name = ".." then t.createFrom place.dropLast rest
    else if nameLimit < name.utf8ByteSize then (.error .nameTooLong, t)
    else
      match t.node? (place ++ [name]) with
      | some .directory => t.createFrom (place ++ [name]) rest
      | some (.file _) => (.error .notDirectory, t)
      | none =>
        if rest.contains "." && rest.all (fun name => name = "" || name = ".") then
          (.error .notFound, t)
        else (t.put (place ++ [name]) .directory).createFrom (place ++ [name]) rest

/-- A path is made to lead to a directory; the empty path asks for nothing. -/
def createDirectories (t : FileTree) (path : String) : Except DiskError Unit × FileTree :=
  match pathFault? path with
  | none => t.createFrom (t.start path) (Path.pieces path)
  | some .notFound => (.ok (), t)
  | some fault => (.error fault, t)

/-- The tree without an empty directory. -/
def removeDirectory (t : FileTree) (path : String) : Except DiskError FileTree := do
  let place ← t.place path
  match t.node? place with
  | none => .error .notFound
  | some (.file _) => .error .notDirectory
  | some .directory =>
    if place = [] || t.nodes.any fun (other, _) => place.isPrefixOf other && other ≠ place then
      .error .isDirectory
    else .ok (t.remove place)

/-! ## 4. Differences -/

/-- The nodes that are new or have changed since an earlier state of the tree. -/
def changedSince (t earlier : FileTree) : List (List String × Node) :=
  t.nodes.filter fun (place, node) => earlier.node? place ≠ some node

end FileTree

end AgentFeed

/-!
# Paths

A path is a text of components with slashes between them. Empty components, and single dots other
than at the start of a relative path, name nothing.
-/

namespace AgentFeed.Path

/-- The pieces of a list of characters between slashes, given the current piece in reverse. -/
def piecesFrom (piece : List Char) : List Char → List (List Char)
  | [] => [piece.reverse]
  | c :: rest => if c = '/' then piece.reverse :: piecesFrom [] rest else piecesFrom (c :: piece) rest

/-- The pieces of a path between slashes. -/
def pieces (path : String) : List String :=
  (piecesFrom [] path.toList).map String.ofList

/-- Whether a path starts at the root. -/
def isAbsolute (path : String) : Bool :=
  path.toList.head? == some '/'

/-- Whether a path ends in a slash. -/
def endsInSlash (path : String) : Bool :=
  path.toList.getLast? == some '/'

/-- A path continued by another; an absolute one takes its place. -/
def join (base name : String) : String :=
  if isAbsolute name || base = "" then name
  else if endsInSlash base then base ++ name
  else base ++ "/" ++ name

/-- The places of the pieces that name something. -/
def components (path : String) : List (Nat × String) :=
  ((pieces path).zipIdx.map fun (piece, i) => (i, piece)).filter fun (i, piece) =>
    piece ≠ "" && (piece ≠ "." || (i = 0 && !isAbsolute path))

/-- The path up to and including a piece. -/
def upTo (path : String) (place : Nat) : String :=
  String.intercalate "/" ((pieces path).take (place + 1))

/-- The path without its last component; nothing when it has none. -/
def parent? (path : String) : Option String :=
  match (components path).reverse with
  | [] => none
  | [_] => some (if isAbsolute path then "/" else "")
  | _ :: (place, _) :: _ => some (upTo path place)

/-- Whether a name has an extension, which is a dot after its first character. -/
def hasExtension (name : String) : Bool :=
  (name.toList.drop 1).contains '.'

/-- The path with a text put behind its last component, when that is a name. One with an extension
must also be the end of the path: the text belongs behind the extension, and nothing else may come
between them. -/
def withSuffix? (path suffix : String) : Option String :=
  match (components path).getLast? with
  | none => none
  | some (place, name) =>
    let named := upTo path place
    if name = "." || name = ".." || (hasExtension name && named ≠ path) then none
    else some (named ++ suffix)

end AgentFeed.Path

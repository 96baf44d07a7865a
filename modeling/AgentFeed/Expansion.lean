import AgentFeed.Environment
import AgentFeed.Text.Alphanumeric

/-!
# Paths with variables

A path in a setting may name variables, as `$NAME`, as `${NAME}`, or as `${NAME:-fallback}` with a
value for when the variable is not set; two dollar signs are one. A tilde at the start, alone or
before a slash, is the home directory, unless a variable brought it there.
-/

namespace AgentFeed.Environment

/-- A character of the name of a variable. -/
def isNameChar (c : Char) : Bool :=
  Text.isAlphanumeric c || c = '_'

/-- The name and the fallback in braces: they are parted by the first `:-`, unless nothing stands
before it. -/
def splitFallback (name : List Char) : List Char → List Char × Option (List Char)
  | ':' :: '-' :: rest =>
    if name = [] then (':' :: '-' :: rest, none) else (name.reverse, some rest)
  | c :: rest => splitFallback (c :: name) rest
  | [] => (name.reverse, none)

/-- The value of a variable. -/
def value? (e : Environment) (name : List Char) : Option (List Char) :=
  (e.get? (String.ofList name)).map String.toList

/-- What stands for braces around some characters. -/
def bracedValue? (e : Environment) (inside : List Char) : Option (List Char) :=
  match splitFallback [] inside with
  | (name, none) => e.value? name
  | (name, some fallback) => some ((e.value? name).getD fallback)

theorem length_dropWhile_le (p : Char → Bool) (cs : List Char) :
    (cs.dropWhile p).length ≤ cs.length :=
  (List.dropWhile_suffix p).length_le

/-- A text with the values of its variables; nothing when one is not set. An opening brace that is
never closed stands for itself, and so does a dollar sign before anything else. -/
def expandVariables (e : Environment) : List Char → Option (List Char)
  | [] => some []
  | '$' :: '{' :: rest =>
    match h : rest.dropWhile (· ≠ '}') with
    | [] => (expandVariables e rest).map ('$' :: '{' :: ·)
    | _ :: after =>
      have : after.length < rest.length := by
        have bound := length_dropWhile_le (· ≠ '}') rest
        rw [h, List.length_cons] at bound
        exact bound
      match e.bracedValue? (rest.takeWhile (· ≠ '}')), expandVariables e after with
      | some value, some more => some (value ++ more)
      | _, _ => none
  | '$' :: '$' :: rest => (expandVariables e rest).map ('$' :: ·)
  | '$' :: c :: rest =>
    if isNameChar c then
      have := length_dropWhile_le isNameChar rest
      match e.value? (c :: rest.takeWhile isNameChar),
          expandVariables e (rest.dropWhile isNameChar) with
      | some value, some more => some (value ++ more)
      | _, _ => none
    else (expandVariables e (c :: rest)).map ('$' :: ·)
  | c :: rest => (expandVariables e rest).map (c :: ·)
termination_by cs => cs.length
decreasing_by
  all_goals simp only [List.length_cons]
  all_goals omega

/-- A path with the home directory for a tilde at its start. -/
def expandTilde (e : Environment) : List Char → List Char
  | '~' :: rest =>
    if rest = [] ∨ rest.head? = some '/' then
      match e.home? with
      | some home => home.toList ++ rest
      | none => '~' :: rest
    else '~' :: rest
  | path => path

/-- The path that a text stands for; nothing when it names a variable that is not set. -/
def expand (e : Environment) (text : String) : Option String := do
  let expanded ← e.expandVariables text.toList
  -- A tilde that comes out of a variable is a name like any other.
  if expanded.head? = some '~' ∧ text.toList.head? ≠ some '~' then
    return String.ofList expanded
  else return String.ofList (e.expandTilde expanded)

end AgentFeed.Environment

import AgentFeed.Table

/-!
# The environment of a program

The variables that a program finds set, and the home directory that its account has on record.

A variable is an entry `NAME=VALUE`, and what is asked for under a name is what follows it and an
equals sign at the start of an entry. A name with a sign in it thus reaches into a value.
-/

namespace AgentFeed

/-- What a program finds set around it. -/
structure Environment where
  /-- The variables, in order of their names. -/
  entries : Table String String := []
  /-- The home directory on record for the account. -/
  accountHome : Option String := none

namespace Environment

/-- What follows a name and an equals sign at the start of an entry. The name of a variable ends at
the first sign in its entry, so what stands behind the first sign in the name is matched with the
value. -/
def get? (e : Environment) (name : String) : Option String :=
  match name.toList.dropWhile (· ≠ '=') with
  | [] => e.entries.get? name
  | _ :: start => do
    let value ← e.entries.get? (String.ofList (name.toList.takeWhile (· ≠ '=')))
    let rest ← (start ++ ['=']).isPrefixOf? value.toList
    return String.ofList rest

/-- The value of a variable that is set to something. -/
def nonempty? (e : Environment) (name : String) : Option String :=
  (e.get? name).filter (· ≠ "")

/-- The home directory: the one that `HOME` names, else the one on record. -/
def home? (e : Environment) : Option String :=
  (e.nonempty? "HOME").or e.accountHome

end Environment

end AgentFeed

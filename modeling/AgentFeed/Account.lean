import AgentFeed.Number.Integer

/-!
# Accounts

The home directory that an account has on record. The record of accounts has a line for each, its
fields between colons: name, password, number, group, remark, home directory, shell.
-/

namespace AgentFeed.Account

/-- The pieces of a list of characters between separators, given the current piece in reverse. -/
def splitFrom (separator : Char) (piece : List Char) : List Char → List (List Char)
  | [] => [piece.reverse]
  | c :: rest =>
    if c = separator then piece.reverse :: splitFrom separator [] rest
    else splitFrom separator (c :: piece) rest

/-- The pieces of a list of characters between separators. -/
def split (separator : Char) (cs : List Char) : List (List Char) :=
  splitFrom separator [] cs

/-- The home directory on a line of the record, if the line is that of an account. -/
def homeOnLine? (number : Nat) (line : List Char) : Option String :=
  match split ':' line with
  | _ :: _ :: uid :: _ :: _ :: home :: _ =>
    if Digits.nat? 10 uid = some number then some (String.ofList home) else none
  | _ => none

/-- The home directory of an account in the record. -/
def home? (record : String) (number : Nat) : Option String :=
  (split '\n' record.toList).findSome? (homeOnLine? number)

/-- The number of the account in the status of a process: the first one on the line `Uid:`. -/
def number? (status : String) : Option Nat :=
  (split '\n' status.toList).findSome? fun line =>
    match split '\t' line with
    | label :: uid :: _ => if label = "Uid:".toList then Digits.nat? 10 uid else none
    | _ => none

end AgentFeed.Account

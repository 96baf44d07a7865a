import AgentFeed.Feed.Item
import AgentFeed.Stream.Normalize
import AgentFeed.Tool.Arguments

/-!
# Edits of a feed

What one message can ask of a feed: to append one item, or to amend the body of one item it
already holds. An amendment says what changes, so it can be applied to any body; to a body of the
wrong sort it does nothing.
-/

namespace AgentFeed

/-! ## 1. Changes of a tool call -/

/-- What happens to the arguments of a tool call. -/
inductive ArgsChange where
  /-- They stay. -/
  | keep
  /-- New fields are put over the old ones. -/
  | merge (incoming : Json)
  /-- They are replaced. -/
  | replace (incoming : Json)
  /-- They are read again from all of their text so far. -/
  | restructure (raw : String)

namespace ArgsChange

/-- The arguments after a change, given those before it. -/
def apply (previous : Option Json) : ArgsChange → Option Json
  | .keep => previous
  | .merge incoming => some (ToolArguments.merged previous incoming)
  | .replace incoming => some incoming
  | .restructure raw => some (ToolArguments.structured raw previous)

end ArgsChange

/-- A change of a tool call; what is absent stays as it was. -/
structure ToolPatch where
  /-- A new name. -/
  name : Option String := none
  /-- A new status. -/
  status : Option ToolStatus := none
  /-- What happens to the arguments. -/
  args : ArgsChange := .keep
  /-- A new result. -/
  result : Option Json := none

namespace ToolPatch

/-- The name after a patch: the placeholder for an unnamed tool never displaces a name. -/
def nameOver (patch : ToolPatch) (old : String) : String :=
  match patch.name with
  | none => old
  | some new => if new = Part.unnamedTool then old else new

/-- A tool call after a patch. -/
def apply (patch : ToolPatch) : FeedBody → FeedBody
  | .tool status name args result =>
    .tool (patch.status.getD status) (patch.nameOver name) (patch.args.apply args)
      (patch.result.or result)
  | other => other

/-- The tool call that a patch begins. -/
def newBody (patch : ToolPatch) : FeedBody :=
  .tool (patch.status.getD .running) (patch.name.getD Part.unnamedTool) (patch.args.apply none)
    patch.result

end ToolPatch

/-! ## 2. Amendments and edits -/

/-- A change of the body of an item. -/
inductive Amendment where
  /-- The text of a message or of reasoning becomes this. -/
  | text (full : String)
  /-- A tool call is patched. -/
  | patch (patch : ToolPatch)
  /-- A tool call ends with a status and a result, if any. -/
  | finish (status : ToolStatus) (result : Option Json)

/-- A body after an amendment. -/
def Amendment.apply : Amendment → FeedBody → FeedBody
  | .text full, .message role _ => .message role full
  | .text full, .reasoning mode _ => .reasoning mode full
  | .patch p, body => p.apply body
  | .finish status result, .tool _ name args _ => .tool status name args result
  | _, body => body

/-- What one message asks of a feed. -/
inductive FeedEdit where
  /-- Append an item with this body. -/
  | append (body : FeedBody)
  /-- Amend the item with this id, if there is one. -/
  | amend (id : String) (change : Amendment)

end AgentFeed

import AgentFeed.Json.Printer
import AgentFeed.Json.Record
import AgentFeed.Stream.Update

/-!
# Feed items

The units a conversation is shown as. An item keeps its id and the time of its first appearance;
what may change is its body. An item is written as one flat record: id, time, the tag `kind`, and
the fields of its body. `FeedItem.render` is its one-line text for a terminal.
-/

namespace AgentFeed

/-! ## 1. Types -/

/-- The author of a message. -/
inductive Role where
  | user
  | assistant
deriving DecidableEq, Repr

/-- How far a tool call has come. -/
inductive ToolStatus where
  | running
  | done
  | error
deriving DecidableEq, Repr

/-- The content of an item. -/
inductive FeedBody where
  /-- A message. -/
  | message (role : Role) (text : String)
  /-- A block of reasoning. -/
  | reasoning (mode : ReasoningMode) (text : String)
  /-- A tool call. -/
  | tool (status : ToolStatus) (name : String) (args : Option Json) (result : Option Json)
  /-- A list of things to do, replacing any earlier one. -/
  | todos (items : List Json)
  /-- A line of a log. -/
  | log (line : String)
  /-- An error that the server reports. -/
  | error (message : String) (code : Option String) (source : Option String)
  /-- A remark of the feed itself. -/
  | system (line : String)

/-- One unit of a conversation. -/
structure FeedItem where
  /-- The identity, kept as long as the item exists. -/
  id : String
  /-- When the item first appeared. -/
  ts : String
  /-- The content. -/
  body : FeedBody

namespace Role

/-- The name of a role. -/
def name : Role → String
  | .user => "user"
  | .assistant => "assistant"

/-- The role with a name. -/
def ofName? (name : String) : Option Role :=
  if name = "user" then some .user
  else if name = "assistant" then some .assistant
  else none

/-- The role that a field names. -/
def ofJson? (value : Json) : Option Role :=
  (Json.constantName? true value).bind ofName?

end Role

namespace ToolStatus

/-- Whether the call has ended. -/
def isTerminal : ToolStatus → Bool
  | .running => false
  | .done => true
  | .error => true

/-- The name of a status. -/
def name : ToolStatus → String
  | .running => "running"
  | .done => "done"
  | .error => "error"

/-- The status with a name. -/
def ofName? (name : String) : Option ToolStatus :=
  if name = "running" then some .running
  else if name = "done" then some .done
  else if name = "error" then some .error
  else none

/-- The status that a field names. -/
def ofJson? (value : Json) : Option ToolStatus :=
  (Json.constantName? true value).bind ofName?

end ToolStatus

/-! ## 2. Views -/

namespace FeedItem

/-- The text of a message or of reasoning. -/
def text? (item : FeedItem) : Option String :=
  match item.body with
  | .message _ text => some text
  | .reasoning _ text => some text
  | _ => none

/-- The line of a log or system item. -/
def line? (item : FeedItem) : Option String :=
  match item.body with
  | .log line => some line
  | .system line => some line
  | _ => none

/-- Whether the item is a tool call. -/
def isTool (item : FeedItem) : Bool :=
  match item.body with
  | .tool _ _ _ _ => true
  | _ => false

end FeedItem

/-- The text of a body on one line, its kind in brackets first. -/
def FeedBody.render : FeedBody → String
  | .message role text => "[" ++ role.name ++ "] " ++ text
  | .reasoning mode text => "[" ++ mode.name ++ "] " ++ text
  | .tool status name args result =>
    let args :=
      match args with
      | none => ""
      | some args => " " ++ args.plainText
    let result :=
      match result with
      | none => ""
      | some result => " -> " ++ result.plainText
    "[tool:" ++ status.name ++ "] " ++ name ++ args ++ result
  | .todos items => "[todos] " ++ toString items.length ++ " items"
  | .log line => "[log] " ++ line
  | .error text code source =>
    let code :=
      match code with
      | none => ""
      | some code => " (code " ++ code ++ ")"
    let source :=
      match source with
      | none => ""
      | some source => " from " ++ source
    "[error] " ++ text ++ code ++ source
  | .system line => "[system] " ++ line

/-- The text of an item on one line. -/
def FeedItem.render (item : FeedItem) : String :=
  item.body.render

/-! ## 3. Writing -/

namespace FeedBody

/-- The tags of the bodies, in order. -/
def tags : List String :=
  ["message", "reasoning", "tool", "todos", "log", "error", "system"]

/-- The tag of a body. -/
def tag : FeedBody → String
  | .message _ _ => "message"
  | .reasoning _ _ => "reasoning"
  | .tool _ _ _ _ => "tool"
  | .todos _ => "todos"
  | .log _ => "log"
  | .error _ _ _ => "error"
  | .system _ => "system"

/-- The fields of a body, in order; an option that is absent is left out. -/
def fields : FeedBody → List (String × Json)
  | .message role text => [("role", .string role.name), ("text", .string text)]
  | .reasoning mode text => [("mode", .string mode.name), ("text", .string text)]
  | .tool status name args result =>
    [("status", .string status.name), ("name", .string name)] ++ Json.optional "args" args
      ++ Json.optional "result" result
  | .todos items => [("items", .array items)]
  | .log line => [("line", .string line)]
  | .error text code source =>
    ("message", .string text) :: Json.optional "code" (code.map .string)
      ++ Json.optional "source" (source.map .string)
  | .system line => [("line", .string line)]

end FeedBody

/-- The item as one flat record. -/
def FeedItem.toJson (item : FeedItem) : Json :=
  .object (("id", .string item.id) :: ("ts", .string item.ts) ::
    ("kind", .string item.body.tag) :: item.body.fields)

/-! ## 4. Reading -/

/-- The body with a tag, from the fields of a record. -/
def FeedBody.ofFields? (tag : String) (fields : Table String Json) : Option FeedBody :=
  match tag with
  | "message" =>
    return .message (← fields.need? "role" Role.ofJson?) (← fields.need? "text" Json.string?)
  | "reasoning" =>
    return .reasoning (← fields.need? "mode" ReasoningMode.ofJson?)
      (← fields.need? "text" Json.string?)
  | "tool" =>
    return .tool (← fields.need? "status" ToolStatus.ofJson?) (← fields.need? "name" Json.string?)
      (← fields.option? "args" Json.any?) (← fields.option? "result" Json.any?)
  | "todos" => return .todos (← fields.need? "items" Json.array?)
  | "log" => return .log (← fields.need? "line" Json.string?)
  | "error" =>
    return .error (← fields.need? "message" Json.string?) (← fields.option? "code" Json.string?)
      (← fields.option? "source" Json.string?)
  | "system" => return .system (← fields.need? "line" Json.string?)
  | _ => none

/-- An item from a flat record. -/
def FeedItem.ofJson? : Json → Option FeedItem
  | .object fields => do
    let id ← Table.need? fields "id" Json.string?
    let ts ← Table.need? fields "ts" Json.string?
    let tag ← Table.need? fields "kind" (Json.tagName? FeedBody.tags)
    return { id, ts, body := ← FeedBody.ofFields? tag fields }
  | _ => none

end AgentFeed

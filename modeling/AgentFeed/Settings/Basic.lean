import AgentFeed.Json.Record
import AgentFeed.Settings.Value
import AgentFeed.Text.Quoted

/-!
# Settings

The settings of the program, in four sections, and their two written forms: a record, and an indented
outline for people. `Settings.ofSetting?` reads them from untyped settings: whatever is missing has
its default, unknown names do not matter, and a section may also be a list of its fields in order.
-/

namespace AgentFeed

/-- Settings of the program's own log. -/
structure LogSettings where
  /-- The least severity that is logged. -/
  level : String := "info"
  /-- A file that the log is also written to. -/
  file : Option String := none
deriving DecidableEq

/-- Settings of feeds. -/
structure FeedSettings where
  /-- How many items a live feed keeps; zero for all. -/
  maxItems : Nat := 500
  /-- The length of previews of unknown stream parts. -/
  previewLimit : Nat := 200
deriving DecidableEq

/-- The settings of the program. -/
structure Settings where
  /-- The section `logging`. -/
  log : LogSettings := {}
  /-- The section `feed`. -/
  feed : FeedSettings := {}
  /-- The directory for data, in the section `paths`. -/
  dataDirectory : Option String := none
  /-- The directory for transcripts, in the section `transcripts`. -/
  transcriptDirectory : Option String := none
deriving DecidableEq

namespace Settings

/-! ## 1. Reading -/

/-- The fields of a section in either of its forms, given their names in order. -/
def fields? (names : List String) : Setting → Option (Table String Setting)
  | .group members => some members
  | .list items => some (names.zip items)
  | _ => none

/-- A field with a default. -/
def fieldOr? {α : Type} (fields : Table String Setting) (name : String) (default : α)
    (read : Setting → Option α) : Option α :=
  match fields.get? name with
  | none => some default
  | some s => read s

/-- A text that may be absent. -/
def textOrUnset? : Setting → Option (Option String)
  | .unset => some none
  | s => s.text?.map some

/-- The section `logging`. -/
def readLog (s : Setting) : Option LogSettings := do
  let fields ← fields? ["level", "file"] s
  return {
    level := ← fieldOr? fields "level" "info" Setting.text?
    file := ← fieldOr? fields "file" none textOrUnset? }

/-- The section `feed`. -/
def readFeed (s : Setting) : Option FeedSettings := do
  let fields ← fields? ["max_items", "unknown_preview_chars"] s
  return {
    maxItems := ← fieldOr? fields "max_items" 500 Setting.count?
    previewLimit := ← fieldOr? fields "unknown_preview_chars" 200 Setting.count? }

/-- A section with one text in it. -/
def readDirectory (name : String) (s : Setting) : Option (Option String) := do
  let fields ← fields? [name] s
  fieldOr? fields name none textOrUnset?

/-- The settings that untyped settings stand for. -/
def ofSetting? (s : Setting) : Option Settings := do
  let sections ← fields? ["logging", "feed", "paths", "transcripts"] s
  return {
    log := ← fieldOr? sections "logging" {} readLog
    feed := ← fieldOr? sections "feed" {} readFeed
    dataDirectory := ← fieldOr? sections "paths" none (readDirectory "data_dir")
    transcriptDirectory := ← fieldOr? sections "transcripts" none (readDirectory "dir") }

/-! ## 2. Writing -/

/-- A text or `null`. -/
def textOrNull (text : Option String) : Json :=
  (text.map Json.string).getD .null

/-- The settings as a record. -/
def toJson (s : Settings) : Json :=
  .object [
    ("logging", .object [("level", .string s.log.level), ("file", textOrNull s.log.file)]),
    ("feed", .object [("max_items", Json.ofNat s.feed.maxItems),
      ("unknown_preview_chars", Json.ofNat s.feed.previewLimit)]),
    ("paths", .object [("data_dir", textOrNull s.dataDirectory)]),
    ("transcripts", .object [("dir", textOrNull s.transcriptDirectory)])]

/-- A line of the outline at a depth. -/
def outlineLine (depth : Nat) (text : String) : String :=
  String.ofList (List.replicate (4 * depth) ' ') ++ text ++ "\n"

/-- A field of the outline with a value on its line. -/
def outlineField (name value : String) : String :=
  outlineLine 2 (name ++ ": " ++ value ++ ",")

/-- A field of the outline with a text that may be absent. -/
def outlineOption (name : String) : Option String → String
  | none => outlineField name "None"
  | some text =>
    outlineLine 2 (name ++ ": Some(") ++ outlineLine 3 (Text.quote text ++ ",")
      ++ outlineLine 2 "),"

/-- A section of the outline. -/
def outlineSection (name kind fields : String) : String :=
  outlineLine 1 (name ++ ": " ++ kind ++ " \x7b") ++ fields ++ outlineLine 1 "\x7d,"

/-- The settings as an outline. -/
def outline (s : Settings) : String :=
  outlineLine 0 "AppConfig \x7b"
    ++ outlineSection "logging" "LoggingConfig"
      (outlineField "level" (Text.quote s.log.level) ++ outlineOption "file" s.log.file)
    ++ outlineSection "feed" "FeedConfig"
      (outlineField "max_items" (String.ofList (Nat.toDigits 10 s.feed.maxItems))
        ++ outlineField "unknown_preview_chars"
          (String.ofList (Nat.toDigits 10 s.feed.previewLimit)))
    ++ outlineSection "paths" "PathsConfig" (outlineOption "data_dir" s.dataDirectory)
    ++ outlineSection "transcripts" "TranscriptsConfig"
      (outlineOption "dir" s.transcriptDirectory)
    ++ "\x7d"

end Settings

end AgentFeed

import LuauWorkspace.LoadError
import LuauWorkspace.Json.Reader
import LuauWorkspace.Markdown

/-!
# Documentation databases

A database is a JSON object from symbols, such as `@roblox/globaltype/Part`, to what there is to
say about them. The later of two entries of one symbol counts.
-/
namespace LuauWorkspace

structure DocEntry where
  documentation : String := ""
  learnMore : Option String := none
  codeSample : Option String := none
deriving DecidableEq, Repr, Inhabited

namespace DocEntry

def markdown (entry : DocEntry) : String :=
  entry.documentation
    ++ (match entry.learnMore with
      | some link => "\n\n[Learn More](" ++ link ++ ")"
      | none => "")
    ++ match entry.codeSample with
      | some sample => "\n\n" ++ Markdown.codeBlock "lua" sample
      | none => ""

/-- The fields that were read so far. -/
structure Draft where
  documentation : Option String := none
  learnMore : Option (Option String) := none
  codeSample : Option (Option String) := none

def record : Json.Record Draft DocEntry where
  names := ["documentation", "learn_more_link", "code_sample"]
  start := {}
  isSet draft name :=
    match name with
    | "documentation" => draft.documentation.isSome
    | "learn_more_link" => draft.learnMore.isSome
    | _ => draft.codeSample.isSome
  read draft name text :=
    match name with
    | "documentation" =>
      (Json.readString text).map fun (value, rest) =>
        ({ draft with documentation := some value }, rest)
    | "learn_more_link" =>
      (Json.readNullable Json.readString text).map fun (value, rest) =>
        ({ draft with learnMore := some value }, rest)
    | _ =>
      (Json.readNullable Json.readString text).map fun (value, rest) =>
        ({ draft with codeSample := some value }, rest)
  finish? draft :=
    some ⟨draft.documentation.getD "", draft.learnMore.join, draft.codeSample.join⟩

end DocEntry

abbrev Documentation := Table String DocEntry

namespace Documentation

def ofText (text : String) : Except Json.Failure Documentation :=
  (Json.parse
    (Json.readTable Json.depthLimit (Json.readRecord (Json.depthLimit - 1) DocEntry.record))
    text).map Table.ofList

def load (disk : Disk) (path : Path) : Except LoadError Documentation := disk.load path ofText

/-- What there is to show about a symbol. -/
def markdown? (docs : Documentation) (symbol : String) : Option String :=
  (docs.get? symbol).map DocEntry.markdown

end Documentation

end LuauWorkspace

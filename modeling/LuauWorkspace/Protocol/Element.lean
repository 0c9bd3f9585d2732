import LuauWorkspace.Protocol.Place
import LuauWorkspace.Protocol.Shape

/-!
# Elements of messages

Shapes of what clients hand back to a server or tell it in passing: edits, diagnostics, items of
lists, and the contexts in which a request is made.
-/
namespace LuauWorkspace.Protocol.Shape

def uri : Shape := readable uri?

def position : Shape := readable position?

def range : Shape := readable range?

def document : Shape := readable document?

/-- Names the progress report of a request. -/
def token : Shape := either text signedWord

def location : Shape := record [need "uri" uri, need "range" range]

def markupKind : Shape := oneOf ["plaintext", "markdown"]

/-- Prose, plain or with its kind of markup. -/
def prose : Shape := either text (record [need "kind" markupKind, need "value" text])

def command : Shape :=
  record [need "title" text, need "command" text, may "arguments" (list anything)]

/-! ## Edits -/

def edit : Shape := record [need "range" range, need "newText" text]

def documentEdits : Shape :=
  record [
    need "textDocument" (record [need "uri" uri, may "version" signedWord]),
    need "edits" (list edit)]

def overwriteOptions : Shape := record (mayAll ["overwrite", "ignoreIfExists"] flag)

def deleteOptions : Shape :=
  record (mayAll ["recursive", "ignoreIfNotExists"] flag ++ [may "annotationId" text])

/-- The fields of an operation on a file. -/
def fileOperation (kind : String) : Shape :=
  match kind with
  | "create" =>
    record [need "uri" uri, may "options" overwriteOptions, may "annotationId" text]
  | "rename" =>
    record [need "oldUri" uri, need "newUri" uri, may "options" overwriteOptions,
      may "annotationId" text]
  | "delete" => record [need "uri" uri, may "options" deleteOptions]
  | _ => fun _ => false

/-- An operation names its kind in a field, or in front of its fields. -/
def taggedOperation : Shape
  | .object fields =>
    let json := Json.object fields
    ((json.get? "kind").bind Json.text?).any fun kind => fileOperation kind json
  | .list (kind :: fields) => kind.text?.any fun kind => fileOperation kind (.list fields)
  | _ => false

def annotation : Shape :=
  record [need "label" text, may "needsConfirmation" flag, may "description" text]

def workspaceEdit : Shape :=
  record [
    ⟨"changes", .defaulted, nullable (table uri (list edit))⟩,
    may "documentChanges"
      (either (list documentEdits) (list (either taggedOperation documentEdits))),
    may "changeAnnotations" (table text annotation)]

/-! ## Items -/

def diagnostic : Shape :=
  record [
    need "range" range, may "severity" signedWord, may "code" (either signedWord text),
    may "codeDescription" (record [need "href" uri]), may "source" text, need "message" text,
    may "relatedInformation" (list (record [need "location" location, need "message" text])),
    may "tags" (list signedWord), may "data" anything]

def codeAction : Shape :=
  record [
    need "title" text, may "kind" text, may "diagnostics" (list diagnostic),
    may "edit" workspaceEdit, may "command" command, may "isPreferred" flag,
    may "disabled" (record [need "reason" text]), may "data" anything]

def codeLens : Shape :=
  record [need "range" range, may "command" command, may "data" anything]

def documentLink : Shape :=
  record [need "range" range, may "target" uri, may "tooltip" text, may "data" anything]

/-- An edit in place of one range, or one that inserts or replaces. -/
def completionEdit : Shape :=
  either edit (record [need "newText" text, need "insert" range, need "replace" range])

def completionItem : Shape :=
  record [
    need "label" text, may "labelDetails" (record (mayAll ["detail", "description"] text)),
    may "kind" signedWord, may "detail" text, may "documentation" prose, may "deprecated" flag,
    may "preselect" flag, may "sortText" text, may "filterText" text, may "insertText" text,
    may "insertTextFormat" signedWord, may "insertTextMode" signedWord,
    may "textEdit" completionEdit, may "additionalTextEdits" (list edit), may "command" command,
    may "commitCharacters" (list text), may "data" anything, may "tags" (list signedWord)]

def inlayHintPart : Shape :=
  record [need "value" text, may "tooltip" prose, may "location" location, may "command" command]

def inlayHint : Shape :=
  record [
    need "position" position, need "label" (either text (list inlayHintPart)),
    may "kind" signedWord, may "textEdits" (list edit), may "tooltip" prose,
    may "paddingLeft" flag, may "paddingRight" flag, may "data" anything]

/-- An item of a hierarchy of calls or types, which differ in how they are tagged. -/
def hierarchyItem (tags : Shape) : Shape :=
  record [
    need "name" text, need "kind" signedWord, may "tags" tags, may "detail" text, need "uri" uri,
    need "range" range, need "selectionRange" range, may "data" anything]

def workspaceSymbol : Shape :=
  record [
    need "name" text, need "kind" signedWord, may "tags" (list signedWord),
    may "containerName" text, need "location" (either location document), may "data" anything]

/-! ## Contexts -/

def parameterInformation : Shape :=
  record [need "label" (either text (pair word)), may "documentation" prose]

def signatureInformation : Shape :=
  record [
    need "label" text, may "documentation" prose, may "parameters" (list parameterInformation),
    may "activeParameter" word]

def signatureHelp : Shape :=
  record [
    need "signatures" (list signatureInformation), may "activeSignature" word,
    may "activeParameter" word]

def signatureContext : Shape :=
  record [
    need "triggerKind" signedWord, may "triggerCharacter" text, need "isRetrigger" flag,
    may "activeSignatureHelp" signatureHelp]

def completionContext : Shape :=
  record [need "triggerKind" signedWord, may "triggerCharacter" text]

def codeActionContext : Shape :=
  record [
    need "diagnostics" (list diagnostic), may "only" (list text), may "triggerKind" signedWord]

def inlineValueContext : Shape :=
  record [need "frameId" signedWord, need "stoppedLocation" range]

def color : Shape := record (["red", "green", "blue", "alpha"].map (need · number))

def formattingOptions : Shape :=
  extended
    ([need "tabSize" word, need "insertSpaces" flag] ++
      mayAll ["trimTrailingWhitespace", "insertFinalNewline", "trimFinalNewlines"] flag)
    (either flag (either signedWord text))

end LuauWorkspace.Protocol.Shape

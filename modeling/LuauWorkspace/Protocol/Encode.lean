import LuauWorkspace.Json.Basic
import LuauWorkspace.Server

/-!
# Values of the protocol

How answers are written as JSON. Absent fields are left out, and severities, kinds and tags are
numbers.
-/
namespace LuauWorkspace.Protocol

def position (p : Position) : Json := .object [("line", .nat p.line), ("character", .nat p.column)]

def range (l : Location) : Json := .object [("start", position l.start), ("end", position l.stop)]

def location (uri : Uri) (l : Location) : Json :=
  .object [("uri", .text uri.text), ("range", range l)]

def markdown (text : String) : Json :=
  .object [("kind", .text "markdown"), ("value", .text text)]

def diagnosticCode : DiagnosticCode → Json
  | .number n => .int n
  | .text code => .text code

def diagnostic (d : Diagnostic) : Json :=
  .object [
    ("range", range d.range),
    ("severity", .nat d.severity.code),
    ("code", diagnosticCode d.code),
    ("source", .text Diagnostic.source),
    ("message", .text d.message)]

def diagnostics (items : List Diagnostic) : Json := .list (items.map diagnostic)

/-- The documents of a report by their URIs. -/
def related (documents : Table Uri (List Diagnostic)) (encode : List Diagnostic → Json) : Json :=
  .object (documents.entries.map fun (uri, items) => (uri.text, encode items))

def fullReport (items : List Diagnostic) : List (String × Json) :=
  [("kind", .text "full"), ("items", diagnostics items)]

def report (d : DocumentDiagnostics) : Json :=
  if d.related.size = 0 then .object (fullReport d.items)
  else
    .object (("relatedDocuments", related d.related fun items => .object (fullReport items))
      :: fullReport d.items)

def hover (h : Query.Hover) : Json :=
  .object [("contents", markdown h.markdown), ("range", range h.range)]

def signature (s : Query.Signature) : Json :=
  .present [
    ("label", some (.text s.label)),
    ("documentation", s.documentation.map markdown),
    ("parameters", some (.list (s.parameters.map fun label => .object [("label", .text label)])))]

def signatureHelp (help : Query.SignatureHelp) : Json :=
  .object [
    ("signatures", .list (help.signatures.map signature)),
    ("activeSignature", .nat 0),
    ("activeParameter", .nat help.activeParameter)]

def link (l : Query.Link) : Json :=
  .object [("range", range l.range), ("target", .text l.target.text)]

def links (all : List Query.Link) : Json := .list (all.map link)

def showSignatures : Json :=
  .object [
    ("title", .text "Trigger Signature Help"),
    ("command", .text "editor.action.triggerParameterHints")]

def completionItem (item : Query.CompletionItem) : Json :=
  .present [
    ("label", some (.text item.label)),
    ("kind", some (.nat item.kind.code)),
    ("detail", item.detail.map .text),
    ("documentation", item.documentation.map markdown),
    ("deprecated", if item.deprecated then some (.bool true) else none),
    ("tags", if item.deprecated then some (.list [.nat 1]) else none),
    ("insertText", item.snippet.map fun snippet => .text snippet.text),
    ("insertTextFormat", item.snippet.map fun _ => .nat 2),
    ("command", item.snippet.bind fun snippet =>
      if snippet.showsSignatures then some showSignatures else none)]

def completionItems (items : List Query.CompletionItem) : Json := .list (items.map completionItem)

end LuauWorkspace.Protocol

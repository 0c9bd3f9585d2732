import LuauWorkspace.Protocol.Element

/-!
# Requests without an answer

The requests of the protocol that this server does not answer, with the parameters that they
take. It still tells the ones it could read from those that are wrong.
-/
namespace LuauWorkspace.Protocol

namespace Shape

def progress : Field := may "workDoneToken" token

/-- Both tokens of a request whose result may come in parts. -/
def tokens : List Field := [progress, may "partialResultToken" token]

def ofDocument : List Field := [need "textDocument" document]

def atPosition : List Field := ofDocument ++ [need "position" position]

def inRange : List Field := ofDocument ++ [need "range" range]

def streamed (fields : List Field) : Shape := merged (fields ++ tokens)

def reported (fields : List Field) : Shape := merged (fields ++ [progress])

/-- Files by their names. -/
def files (names : List String) : Shape :=
  record [need "files" (list (record (names.map (need · text))))]

def callItem : Shape := streamed [need "item" (hierarchyItem (list signedWord))]

def typeItem : Shape := streamed [need "item" (hierarchyItem signedWord)]

def previousResult : Shape := record [need "uri" uri, need "value" text]

end Shape

open Shape in
def unansweredRequests : List (String × Shape) := [
  ("textDocument/declaration", streamed atPosition),
  ("textDocument/implementation", streamed atPosition),
  ("textDocument/documentHighlight", streamed atPosition),
  ("textDocument/moniker", streamed atPosition),
  ("textDocument/references",
    streamed (atPosition ++ [need "context" (record [need "includeDeclaration" flag])])),
  ("textDocument/linkedEditingRange", reported atPosition),
  ("textDocument/prepareCallHierarchy", reported atPosition),
  ("textDocument/prepareTypeHierarchy", reported atPosition),
  ("textDocument/rename", reported (atPosition ++ [need "newName" text])),
  ("textDocument/prepareRename", record atPosition),
  ("textDocument/onTypeFormatting",
    merged (atPosition ++ [need "ch" text, need "options" formattingOptions])),
  ("callHierarchy/incomingCalls", callItem),
  ("callHierarchy/outgoingCalls", callItem),
  ("typeHierarchy/supertypes", typeItem),
  ("typeHierarchy/subtypes", typeItem),
  ("textDocument/documentSymbol", streamed ofDocument),
  ("textDocument/foldingRange", streamed ofDocument),
  ("textDocument/documentColor", streamed ofDocument),
  ("textDocument/codeLens", streamed ofDocument),
  ("textDocument/semanticTokens/full", streamed ofDocument),
  ("textDocument/semanticTokens/full/delta",
    streamed (ofDocument ++ [need "previousResultId" text])),
  ("textDocument/semanticTokens/range", streamed inRange),
  ("textDocument/selectionRange", streamed (ofDocument ++ [need "positions" (list position)])),
  ("textDocument/colorPresentation", streamed (inRange ++ [need "color" color])),
  ("textDocument/codeAction", streamed (inRange ++ [need "context" codeActionContext])),
  ("textDocument/formatting", reported (ofDocument ++ [need "options" formattingOptions])),
  ("textDocument/rangeFormatting", reported (inRange ++ [need "options" formattingOptions])),
  ("textDocument/inlayHint", reported inRange),
  ("textDocument/inlineValue", reported (inRange ++ [need "context" inlineValueContext])),
  ("textDocument/willSaveWaitUntil", record (ofDocument ++ [need "reason" signedWord])),
  ("inlayHint/resolve", inlayHint),
  ("codeLens/resolve", codeLens),
  ("codeAction/resolve", codeAction),
  ("completionItem/resolve", completionItem),
  ("documentLink/resolve", documentLink),
  ("workspaceSymbol/resolve", workspaceSymbol),
  ("workspace/symbol", streamed [need "query" text]),
  ("workspace/diagnostic",
    streamed [may "identifier" text, need "previousResultIds" (list previousResult)]),
  ("workspace/executeCommand",
    reported [need "command" text, ⟨"arguments", .defaulted, list anything⟩]),
  ("workspace/willCreateFiles", files ["uri"]),
  ("workspace/willRenameFiles", files ["oldUri", "newUri"]),
  ("workspace/willDeleteFiles", files ["uri"])]

end LuauWorkspace.Protocol

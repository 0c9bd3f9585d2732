import LuauWorkspace.Protocol.Element

/-!
# Capabilities of clients

What a client says of itself when it starts a session. The server makes no use of it, but a
client whose capabilities cannot be read is refused.
-/
namespace LuauWorkspace.Protocol.Shape

def dynamic : Field := may "dynamicRegistration" flag

/-- A feature that says nothing but whether it can be registered later. -/
def registration : Shape := record [dynamic]

/-- A feature that can be registered later and has switches of its own. -/
def switches (names : List String) : Shape := record (dynamic :: mayAll names flag)

def refreshable : Shape := record [may "refreshSupport" flag]

/-- Kinds that the client knows. -/
def knownKinds : Shape := record [may "valueSet" (list signedWord)]

/-- Tags that the client knows; a switch also stands for all or none. -/
def knownTags : Field :=
  ⟨"tagSupport", .defaulted,
    nullable (either flag (record [need "valueSet" (list signedWord)]))⟩

/-- Properties that the client fetches later. -/
def lazyProperties : Field := may "resolveSupport" (record [need "properties" (list text)])

/-! ## Workspace -/

def workspaceEditSupport : Shape :=
  record [
    may "documentChanges" flag,
    may "resourceOperations" (list (oneOf ["create", "rename", "delete"])),
    may "failureHandling" (oneOf ["abort", "transactional", "textOnlyTransactional", "undo"]),
    may "normalizesLineEndings" flag,
    may "changeAnnotationSupport" (record [may "groupsOnLabel" flag])]

def workspaceCapabilities : Shape :=
  record [
    may "applyEdit" flag, may "workspaceEdit" workspaceEditSupport,
    may "didChangeConfiguration" registration,
    may "didChangeWatchedFiles" (switches ["relativePatternSupport"]),
    may "symbol" (record [dynamic, may "symbolKind" knownKinds, knownTags, lazyProperties]),
    may "executeCommand" registration, may "workspaceFolders" flag, may "configuration" flag,
    may "semanticTokens" refreshable, may "codeLens" refreshable,
    may "fileOperations" (switches
      ["didCreate", "willCreate", "didRename", "willRename", "didDelete", "willDelete"]),
    may "inlineValue" refreshable, may "inlayHint" refreshable, may "diagnostic" refreshable]

/-! ## Documents -/

def completionItemSupport : Shape :=
  record [
    may "snippetSupport" flag, may "commitCharactersSupport" flag,
    may "documentationFormat" (list markupKind), may "deprecatedSupport" flag,
    may "preselectSupport" flag, knownTags, may "insertReplaceSupport" flag, lazyProperties,
    may "insertTextModeSupport" (record [need "valueSet" (list signedWord)]),
    may "labelDetailsSupport" flag]

def completionSupport : Shape :=
  record [
    dynamic, may "completionItem" completionItemSupport, may "completionItemKind" knownKinds,
    may "contextSupport" flag, may "insertTextMode" signedWord,
    may "completionList" (record [may "itemDefaults" (list text)])]

def signatureSupport : Shape :=
  record [
    dynamic,
    may "signatureInformation" (record [
      may "documentationFormat" (list markupKind),
      may "parameterInformation" (record [may "labelOffsetSupport" flag]),
      may "activeParameterSupport" flag]),
    may "contextSupport" flag]

def codeActionSupport : Shape :=
  record [
    dynamic,
    may "codeActionLiteralSupport"
      (record [need "codeActionKind" (record [need "valueSet" (list text)])]),
    may "isPreferredSupport" flag, may "disabledSupport" flag, may "dataSupport" flag,
    lazyProperties, may "honorsChangeAnnotations" flag]

def renameSupport : Shape :=
  record [
    dynamic, may "prepareSupport" flag, may "prepareSupportDefaultBehavior" signedWord,
    may "honorsChangeAnnotations" flag]

def publishSupport : Shape :=
  record (may "relatedInformation" flag :: knownTags ::
    mayAll ["versionSupport", "codeDescriptionSupport", "dataSupport"] flag)

def foldingSupport : Shape :=
  record [
    dynamic, may "rangeLimit" word, may "lineFoldingOnly" flag,
    may "foldingRangeKind"
      (record [may "valueSet" (list (oneOf ["comment", "imports", "region"]))]),
    may "foldingRange" (record [may "collapsedText" flag])]

def semanticTokensSupport : Shape :=
  record ([
    dynamic,
    need "requests" (record [
      may "range" flag, may "full" (either flag (record [may "delta" flag]))]),
    need "tokenTypes" (list text), need "tokenModifiers" (list text),
    need "formats" (list text)] ++
    mayAll ["overlappingTokenSupport", "multilineTokenSupport", "serverCancelSupport",
      "augmentsSyntaxTokens"] flag)

def documentCapabilities : Shape :=
  let linked := switches ["linkSupport"]
  record [
    may "synchronization" (switches ["willSave", "willSaveWaitUntil", "didSave"]),
    may "completion" completionSupport,
    may "hover" (record [dynamic, may "contentFormat" (list markupKind)]),
    may "signatureHelp" signatureSupport, may "references" registration,
    may "documentHighlight" registration,
    may "documentSymbol" (record [
      dynamic, may "symbolKind" knownKinds, may "hierarchicalDocumentSymbolSupport" flag,
      knownTags]),
    may "formatting" registration, may "rangeFormatting" registration,
    may "onTypeFormatting" registration, may "declaration" linked, may "definition" linked,
    may "typeDefinition" linked, may "implementation" linked,
    may "codeAction" codeActionSupport, may "codeLens" registration,
    may "documentLink" (switches ["tooltipSupport"]), may "colorProvider" registration,
    may "rename" renameSupport, may "publishDiagnostics" publishSupport,
    may "foldingRange" foldingSupport, may "selectionRange" registration,
    may "linkedEditingRange" registration, may "callHierarchy" registration,
    may "semanticTokens" semanticTokensSupport, may "moniker" registration,
    may "typeHierarchy" registration, may "inlineValue" registration,
    may "inlayHint" (record [dynamic, lazyProperties]),
    may "diagnostic" (switches ["relatedDocumentSupport"])]

/-! ## The client as a whole -/

def windowCapabilities : Shape :=
  record [
    may "workDoneProgress" flag,
    may "showMessage" (record [
      may "messageActionItem" (record [may "additionalPropertiesSupport" flag])]),
    may "showDocument" (record [need "support" flag])]

def generalCapabilities : Shape :=
  record [
    may "regularExpressions" (record [need "engine" text, may "version" text]),
    may "markdown"
      (record [need "parser" text, may "version" text, may "allowedTags" (list text)]),
    may "staleRequestSupport"
      (record [need "cancel" flag, need "retryOnContentModified" (list text)]),
    may "positionEncodings" (list text)]

def clientCapabilities : Shape :=
  record [
    may "workspace" workspaceCapabilities, may "textDocument" documentCapabilities,
    may "window" windowCapabilities, may "general" generalCapabilities,
    may "experimental" anything]

end LuauWorkspace.Protocol.Shape

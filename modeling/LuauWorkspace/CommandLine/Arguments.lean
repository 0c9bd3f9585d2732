import LuauWorkspace.Batch.Run
import LuauWorkspace.CommandLine.Words

/-!
# Arguments of the program

The program serves a client unless it is told to analyze files. Options of the server stand
before the command; the command has its own.
-/
namespace LuauWorkspace.CommandLine

inductive Command where
  | serve
  | analyze (options : Batch.Options)
deriving DecidableEq, Repr

structure Arguments where
  logLevel : Option String := none
  noColor : Bool := false
  noFileLogging : Bool := false
  definitions : List Path := []
  documentation : Option Path := none
  /-- None when no command is named, which is to serve. -/
  command : Option Command := none
deriving DecidableEq, Repr

def formatNames : List (String × Batch.Format) :=
  [("default", .standard), ("plain", .plain), ("gnu", .gnu)]

def formatNamed? (name : String) : Option Batch.Format := formatNames.lookup name

/-- Paths are never empty. -/
def isPath (text : String) : Bool := text ≠ ""

def definitionsParameter : Parameter :=
  { name := "definitions", arity := .many, accepts := isPath }

def programGrammar : Grammar where
  parameters := [
    { name := "log-level", arity := .once },
    { name := "no-color", arity := .switch },
    { name := "no-file-logging", arity := .switch },
    definitionsParameter,
    { name := "docs", spellings := ["docs", "documentation"], arity := .once, accepts := isPath }]
  commands := ["lsp", "analyze", "help"]
  hasVersion := true

def serveGrammar : Grammar := { parameters := [] }

def analyzeGrammar : Grammar where
  parameters := [
    { name := "formatter", arity := .once, accepts := fun name => (formatNamed? name).isSome },
    { name := "sourcemap", arity := .once, accepts := isPath },
    definitionsParameter,
    { name := "ignore", arity := .many }]
  operands := some { name := "files", arity := .many, accepts := isPath }

def Given.paths (given : Given) (name : String) : List Path := (given.values name).map Path.mk

def Given.path? (given : Given) (name : String) : Option Path := (given.value? name).map Path.mk

def optionsOf (given : Given) : Batch.Options where
  format := ((given.value? "formatter").bind formatNamed?).getD .standard
  manifest := given.path? "sourcemap"
  definitions := given.paths "definitions"
  ignore := given.values "ignore"
  files := given.paths "files"

/-- Explains the program or one command, of which there is no other. -/
def help (words : List String) : Failure :=
  match words with
  | [] => .helpRequested
  | [word] => if word ∈ programGrammar.commands then .helpRequested else .unknownCommand
  | _ => .unknownCommand

def command (name : String) (words : List String) : Except Failure Command :=
  match name with
  | "lsp" => (readAll serveGrammar words).map fun _ => .serve
  | "analyze" => (readAll analyzeGrammar words).map fun given => .analyze (optionsOf given)
  | _ => .error (help words)

/-- The words of the command are read before the last value in front of it is settled. -/
def Arguments.parse (words : List String) : Except Failure Arguments := do
  let (reading, named) ← read programGrammar {} words
  let command ←
    match named with
    | some (name, rest) => some <$> CommandLine.command name rest
    | none => pure none
  let given := (← reading.settled).given
  return {
    logLevel := given.value? "log-level"
    noColor := given.has "no-color"
    noFileLogging := given.has "no-file-logging"
    definitions := given.paths "definitions"
    documentation := given.path? "docs"
    command }

theorem Arguments.parse_nil : Arguments.parse [] = .ok {} := rfl

end LuauWorkspace.CommandLine

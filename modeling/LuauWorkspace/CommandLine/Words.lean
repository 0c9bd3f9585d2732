import LuauWorkspace.Text.Split

/-!
# Words of a command line

A command line is read word by word. A parameter is given by its long name, and one that takes a
value takes it from behind an equals sign or from the next word, unless that word looks like a
flag. Values are settled late: the values of a parameter are counted and checked when the next
parameter comes or the line ends, so a flag that does not exist is found before a bad value in
front of it. Behind `--` every word is an operand.
-/
namespace LuauWorkspace.CommandLine

inductive Failure where
  /-- A value is missing or not accepted. -/
  | invalidValue
  | unknownArgument
  | unknownCommand
  /-- A parameter that can be given once was given again. -/
  | repeated
  /-- A switch was given a value. -/
  | surplusValue
  | helpRequested
  | versionRequested
deriving DecidableEq, Repr

namespace Failure

def message : Failure → String
  | invalidValue => "a value is missing or not accepted"
  | unknownArgument => "unexpected argument"
  | unknownCommand => "unrecognized command"
  | repeated => "an argument cannot be used multiple times"
  | surplusValue => "unexpected value for a flag"
  | helpRequested => "help"
  | versionRequested => "version"

end Failure

inductive Arity where
  | switch
  | once
  | many
deriving DecidableEq, Repr

structure Parameter where
  /-- What the parameter is looked up by. -/
  name : String
  spellings : List String := [name]
  arity : Arity
  accepts : String → Bool := fun _ => true

/-- What a command line may say. -/
structure Grammar where
  parameters : List Parameter
  /-- Takes the words that are no flags, as many as there are. -/
  operands : Option Parameter := none
  commands : List String := []
  hasVersion : Bool := false

namespace Grammar

variable (grammar : Grammar)

def find? (spelling : String) : Option Parameter :=
  grammar.parameters.find? fun parameter => parameter.spellings.contains spelling

end Grammar

/-- The values that were given, by the names of their parameters, in order. A switch has none. -/
abbrev Given := List (String × List String)

namespace Given

def values (given : Given) (name : String) : List String :=
  given.flatMap fun entry => if entry.1 = name then entry.2 else []

def value? (given : Given) (name : String) : Option String := (given.values name).head?

def has (given : Given) (name : String) : Bool := given.any fun entry => entry.1 = name

theorem values_append (first second : Given) (name : String) :
    Given.values (first ++ second) name = first.values name ++ second.values name := by
  simp [values]

end Given

/-- A parameter whose values are still being collected. -/
structure Pending where
  parameter : Parameter
  values : List String := []

/-- What the next word can be. -/
inductive Expected where
  | anything
  /-- The value of the parameter in front of it. -/
  | value
  /-- One more operand, but no command. -/
  | operand
deriving DecidableEq, Repr

structure Reading where
  given : Given := []
  pending : Option Pending := none
  expected : Expected := .anything
  /-- Whether `--` was read. -/
  literal : Bool := false

namespace Reading

def settle (reading : Reading) (parameter : Parameter) (values : List String) :
    Except Failure Reading :=
  -- A repetition is told before a bad value of the second one.
  if parameter.arity ≠ .many ∧ reading.given.has parameter.name then .error .repeated
  else if values.all parameter.accepts then
    .ok { reading with given := reading.given ++ [(parameter.name, values)], pending := none }
  else .error .invalidValue

/-- Settles the values that are being collected. -/
def settled (reading : Reading) : Except Failure Reading :=
  match reading.pending with
  | none => .ok reading
  | some pending =>
    if pending.values = [] then .error .invalidValue
    else reading.settle pending.parameter pending.values

def withValue (reading : Reading) (word : String) : Reading :=
  match reading.pending with
  | none => reading
  | some pending =>
    { reading with
      pending := some { pending with values := pending.values ++ [word] }
      expected := .anything }

/-- A known flag, with the value behind its equals sign. -/
def known (reading : Reading) (parameter : Parameter) (attached : Option String) :
    Except Failure Reading :=
  match parameter.arity, attached with
  | .switch, some _ => .error .surplusValue
  | .switch, none => do
    let before ← reading.settled
    let after ← before.settle parameter []
    return { after with expected := .anything }
  | _, some value => do
    let before ← reading.settled
    let after ← before.settle parameter [value]
    return { after with expected := .anything }
  | _, none => do
    let before ← reading.settled
    return { before with pending := some { parameter }, expected := .value }

/-- A flag of every command, which answers instead of the command. -/
def special (reading : Reading) (attached : Option String) (request : Failure) :
    Except Failure Reading :=
  match attached with
  | some _ => .error .surplusValue
  | none => do
    let _ ← reading.settled
    throw request

def long (grammar : Grammar) (reading : Reading) (name : String) (attached : Option String) :
    Except Failure Reading :=
  match grammar.find? name with
  | some parameter => reading.known parameter attached
  | none =>
    if name = "help" then reading.special attached .helpRequested
    else if name = "version" ∧ grammar.hasVersion then
      reading.special attached .versionRequested
    else .error .unknownArgument

/-- Letters behind a single dash; the first one decides. -/
def short (grammar : Grammar) (reading : Reading) (letter : Char) : Except Failure Reading :=
  if letter = 'h' then reading.special none .helpRequested
  else if letter = 'V' ∧ grammar.hasVersion then reading.special none .versionRequested
  else .error .unknownArgument

def operand (grammar : Grammar) (reading : Reading) (word : String) : Except Failure Reading :=
  match grammar.operands with
  | none =>
    if grammar.commands = [] ∨ reading.literal ∧ word ∈ grammar.commands then
      .error .unknownArgument
    else .error .unknownCommand
  | some parameter => do
    let collecting := reading.expected = .operand
    let before ← if collecting then pure reading else reading.settled
    let values := if collecting then (before.pending.map (·.values)).getD [] else []
    return { before with
      pending := some { parameter, values := values ++ [word] }
      expected := .operand }

end Reading

/-- The name of a long flag and the value behind its equals sign. -/
def splitFlag (text : List Char) : String × Option String :=
  let name := text.takeWhile (· ≠ '=')
  match text.dropWhile (· ≠ '=') with
  | _ :: value => (String.ofList name, some (String.ofList value))
  | [] => (String.ofList name, none)

/-- Reads a word that neither ends the flags nor names a command. -/
def Reading.word (grammar : Grammar) (reading : Reading) (word : String) :
    Except Failure Reading :=
  if reading.literal then reading.operand grammar word
  else
    match word.toList with
    | '-' :: '-' :: text =>
      let (name, attached) := splitFlag text
      reading.long grammar name attached
    | '-' :: letter :: _ => reading.short grammar letter
    | _ =>
      if reading.expected = .value then .ok (reading.withValue word)
      else reading.operand grammar word

/-- Reads words up to a command, which is returned with the words behind it. -/
def read (grammar : Grammar) (reading : Reading) :
    List String → Except Failure (Reading × Option (String × List String))
  | [] => .ok (reading, none)
  | word :: rest =>
    if !reading.literal && reading.expected = .anything && grammar.commands.contains word then
      .ok (reading, some (word, rest))
    else if !reading.literal && word = "--" then read grammar { reading with literal := true } rest
    else
      match reading.word grammar word with
      | .ok next => read grammar next rest
      | .error failure => .error failure

/-- Reads a whole command line that names no further command. -/
def readAll (grammar : Grammar) (words : List String) : Except Failure Given := do
  let (reading, _) ← read grammar {} words
  return (← reading.settled).given

end LuauWorkspace.CommandLine

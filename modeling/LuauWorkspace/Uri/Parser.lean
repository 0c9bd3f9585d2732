import LuauWorkspace.Uri.Basic
import LuauWorkspace.Uri.Host

/-!
# Reading URIs

The text of a URI is read left to right: scheme, authority, path, query, fragment. Blanks and
control characters around it and line breaks inside it do not count. The schemes of the web and
`file` are special: a backslash separates like a slash, hosts are read as domains or addresses,
and there is always a path. `.` and `..` segments, written out or percent encoded, are folded.
Drive letters cannot be folded away, and one at the start of a `file` path takes a colon unless an
empty authority is written out in front of it.
-/
namespace LuauWorkspace.Uri

open Text (split join)

inductive SchemeKind where
  | file
  | special (defaultPort : Nat)
  | plain
deriving DecidableEq, Repr

def kindOf (scheme : String) : SchemeKind :=
  match scheme with
  | "file" => .file
  | "http" | "ws" => .special 80
  | "https" | "wss" => .special 443
  | "ftp" => .special 21
  | _ => .plain

def SchemeKind.isSpecial : SchemeKind → Bool
  | .plain => false
  | _ => true

namespace Reading

def isEdgeBlank (c : Char) : Bool := c.toNat ≤ 0x20

def isDropped (c : Char) : Bool := c == '\t' || c == '\n' || c == '\r'

def cleaned (text : List Char) : List Char :=
  let trimmed := ((text.dropWhile isEdgeBlank).reverse.dropWhile isEdgeBlank).reverse
  trimmed.filter fun c => !isDropped c

def isSchemeChar (c : Char) : Bool := c.isAlphanum || c == '+' || c == '-' || c == '.'

/-- The scheme in small letters and the text behind its colon. -/
def scheme? (text : List Char) : Option (String × List Char) :=
  match text with
  | [] => none
  | first :: _ =>
    match text.dropWhile isSchemeChar with
    | ':' :: rest =>
      if first.isAlpha then
        some (String.ofList ((text.takeWhile isSchemeChar).map Char.toLower), rest)
      else none
    | _ => none

def isSlash (kind : SchemeKind) (c : Char) : Bool :=
  c == '/' || (kind.isSpecial && c == '\\')

/-- With one kind of separator left, segments can be split at slashes. -/
def slashed (kind : SchemeKind) (text : List Char) : List Char :=
  text.map fun c => if isSlash kind c then '/' else c

def isDriveLetter (segment : List Char) : Bool :=
  match segment with
  | [letter, mark] => letter.isAlpha && (mark == ':' || mark == '|')
  | _ => false

/-- A drive letter written with a colon. -/
def driveLetter (segment : List Char) : List Char := segment.take 1 ++ [':']

def isSingleDot (segment : List Char) : Bool :=
  let small := segment.map Char.toLower
  small = ['.'] || small = ['%', '2', 'e']

def isDoubleDot (segment : List Char) : Bool :=
  let small := segment.map Char.toLower
  small = ['.', '.'] || small = ['.', '%', '2', 'e'] || small = ['%', '2', 'e', '.']
    || small = ['%', '2', 'e', '%', '2', 'e']

/-- Drops the last of the segments read so far, given in reverse, unless it is a drive letter. -/
def shorten (done : List (List Char)) : List (List Char) :=
  if done.head?.any isDriveLetter then done else done.drop 1

/-- The segments of a path, in reverse. A dot segment at the end leaves an empty name. `drives`
tells whether a drive letter takes a colon, which only the first name can. -/
def fold (drives : Bool) (done : List (List Char)) : List (List Char) → List (List Char)
  | [] => done
  | segment :: rest =>
    let last := rest.isEmpty
    if isDoubleDot segment then
      fold drives (if last then [] :: shorten done else shorten done) rest
    else if isSingleDot segment then fold drives (if last then [] :: done else done) rest
    else if drives ∧ done = [] ∧ isDriveLetter segment then fold drives [driveLetter segment] rest
    else fold drives (Percent.encode Percent.pathSet segment :: done) rest

/-- The names of a path that is written in `text` behind its first slash. -/
def names (drives : Bool) (text : List Char) : List (List Char) :=
  (fold drives [] (split '/' text)).reverse

def pathText (text : List Char) : List Char := '/' :: join '/' (names false text)

/-- The path of a `file` URI has no empty names at its start. -/
def filePathText (names : List (List Char)) : List Char :=
  '/' :: (join '/' names).dropWhile (· = '/')

def dropSlash (text : List Char) : List Char :=
  match text with
  | '/' :: rest => rest
  | _ => text

/-- Cuts at the first character that satisfies the test. -/
def cut (test : Char → Bool) (text : List Char) : List Char × List Char :=
  (text.takeWhile (!test ·), text.dropWhile (!test ·))

/-- The text in front of the last `@` and the text behind it. -/
def splitUserInfo? (authority : List Char) : Option (List Char × List Char) :=
  match (split '@' authority).reverse with
  | host :: info :: more => some (join '@' (info :: more).reverse, host)
  | _ => none

def userInfoText (info : List Char) : List Char :=
  let (name, password) := cut (· == ':') info
  let encoded := Percent.encode Percent.userInfoSet
  encoded name ++
    match password with
    | ':' :: c :: rest => ':' :: encoded (c :: rest)
    | _ => []

/-- Cuts off the port: the first colon outside of brackets starts it. -/
def splitPort (inBrackets : Bool) : List Char → List Char × List Char
  | [] => ([], [])
  | c :: rest =>
    if c = ':' ∧ ¬ inBrackets then ([], c :: rest)
    else
      let (host, port) :=
        splitPort (if c = '[' then true else if c = ']' then false else inBrackets) rest
      (c :: host, port)

/-- The outer none is a port that is no number of sixteen bits; the default port is not kept. -/
def port? (kind : SchemeKind) (text : List Char) : Option (Option Nat) :=
  match text with
  | [] | [':'] => some none
  | _ :: digits =>
    match if digits.all Char.isDigit then Host.digitsOfBase? 10 digits else none with
    | none => none
    | some n =>
      if 65535 < n then none
      else if kind = .special n then some none
      else some (some n)

/-- An authority and what comes behind its port: digits that end in a backslash end the authority
too. `more` says whether anything follows the text. -/
def authority? (kind : SchemeKind) (text : List Char) (more : Bool) :
    Option (Authority × List Char) := do
  let (info, hostAndPort) := (splitUserInfo? text).getD ([], text)
  if (splitUserInfo? text).isSome ∧ info = [] ∧ hostAndPort = [] ∧ more then none
  let (hostText, portText) := splitPort false hostAndPort
  let userInfo := userInfoText info
  if hostText = [] then
    if kind.isSpecial ∨ portText ≠ [] ∨ userInfo ≠ [] then none
    return ({}, [])
  let host ← if kind.isSpecial then Host.special? hostText else Host.plain? hostText
  let (digits, behind) := cut (· == '\\') portText
  let port ← port? kind digits
  return (⟨String.ofList userInfo, String.ofList host, port⟩, behind)

/-- Authority and path of a `file` URI. `localhost` is no host, and with a drive there is none. -/
def fileParts? (body : List Char) : Option (Authority × List Char) :=
  match body with
  | '/' :: '/' :: rest =>
    let (hostText, below) := cut (· == '/') rest
    if isDriveLetter hostText then some ({}, filePathText (names true rest))
    else if hostText = [] then some ({}, filePathText (names false (dropSlash below)))
    else
      match Host.special? hostText with
      | none => none
      | some host =>
        if host = "localhost".toList then
          some ({}, filePathText (names false (dropSlash below)))
        else
          let path := names true (dropSlash below)
          let authority : Authority :=
            if path.head?.any isDriveLetter then {} else ⟨"", String.ofList host, none⟩
          some (authority, filePathText path)
  | _ => some ({}, filePathText (names true (dropSlash body)))

def hierarchy? (kind : SchemeKind) (body : List Char) (more : Bool) :
    Option (Option Authority × List Char) :=
  match kind with
  | .file => (fileParts? (slashed kind body)).map fun (authority, path) => (some authority, path)
  | .special _ => do
    let (text, below) := cut (· == '/') ((slashed kind body).dropWhile (· == '/'))
    let (authority, _) ← authority? kind text (more || !below.isEmpty)
    return (some authority, pathText (dropSlash below))
  | .plain =>
    match body with
    | '/' :: '/' :: rest => do
      let (text, below) := cut (· == '/') rest
      let (authority, behind) ← authority? kind text (more || !below.isEmpty)
      let path := behind ++ below
      return (some authority, if path = [] then [] else pathText (dropSlash path))
    | '/' :: rest => some (none, pathText rest)
    | _ => some (none, Percent.encode Percent.controls body)

end Reading

/-- None when the text is no absolute URI. -/
def parse? (text : String) : Option Uri := do
  let (scheme, rest) ← Reading.scheme? (Reading.cleaned text.toList)
  let kind := kindOf scheme
  let (body, tail) := Reading.cut (fun c => c == '?' || c == '#') rest
  let (query, fragment) := Reading.cut (· == '#') tail
  let (authority, path) ← Reading.hierarchy? kind body (!tail.isEmpty)
  let querySet := if kind = .plain then Percent.querySet else Percent.specialQuerySet
  let part (set : Percent.EncodeSet) (written : List Char) : Option String :=
    match written with
    | [] => none
    | _ :: inner => some (String.ofList (Percent.encode set inner))
  return ⟨scheme, authority, String.ofList path, part querySet query,
    part Percent.fragmentSet fragment⟩

end LuauWorkspace.Uri

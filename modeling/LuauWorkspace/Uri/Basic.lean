import LuauWorkspace.Text.Split

/-!
# URIs

A URI is kept in its serialized parts, so two URIs are the same when they are written the same.
Reading a text is the business of `Uri.parse?`, files are named by `Uri.ofFilePath?` and
`Uri.toFilePath?`.
-/
namespace LuauWorkspace

structure Authority where
  /-- The written user name and password, without the `@` behind them. -/
  userInfo : String := ""
  host : String := ""
  port : Option Nat := none
deriving DecidableEq, Repr, Inhabited

structure Uri where
  scheme : String
  authority : Option Authority := none
  path : String
  query : Option String := none
  fragment : Option String := none
deriving DecidableEq, Repr, Inhabited

namespace Authority

def text (a : Authority) : String :=
  (if a.userInfo = "" then "" else a.userInfo ++ "@") ++ a.host
    ++ match a.port with
      | none => ""
      | some port => ":" ++ toString port

end Authority

namespace Uri

/-- A path that starts with two slashes is kept apart from an authority by `/.` before it. -/
def text (uri : Uri) : String :=
  uri.scheme ++ ":"
    ++ (match uri.authority with
      | some authority => "//" ++ authority.text
      | none => if uri.path.startsWith "//" then "/." else "")
    ++ uri.path
    ++ (match uri.query with
      | some query => "?" ++ query
      | none => "")
    ++ match uri.fragment with
      | some fragment => "#" ++ fragment
      | none => ""

/-- The encoded names of a path that starts with a slash. -/
def segments? (uri : Uri) : Option (List String) :=
  match Text.pieces '/' uri.path with
  | "" :: first :: rest => some (first :: rest)
  | _ => none

/-- The last name of the path that is not empty, or the whole URI. -/
def folderName (uri : Uri) : String :=
  match uri.segments? with
  | none => uri.text
  | some segments =>
    match (segments.filter (· ≠ "")).getLast? with
    | some name => name
    | none => uri.text

end Uri

end LuauWorkspace

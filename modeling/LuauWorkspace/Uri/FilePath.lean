import LuauWorkspace.ModuleName
import LuauWorkspace.Uri.Percent
import LuauWorkspace.Uri.Basic

/-!
# URIs of files

An absolute path becomes a `file` URI name by name; `..` is kept and names are encoded so that
they read back unchanged. In the other direction the names of a path are decoded. Only a `file`
URI names a module by its path; every other URI is the name of its module itself.
-/
namespace LuauWorkspace

namespace Uri

def ofFilePath? (path : Path) : Option Uri :=
  match path.components with
  | .root :: names =>
    let encoded (name : Path.Component) : List Char :=
      '/' :: Percent.encode Percent.fileNameSet name.text.toList
    some {
      scheme := "file"
      authority := some {}
      path := if names = [] then "/" else String.ofList (names.flatMap encoded) }
  | _ => none

/-- The URI of a directory ends with a slash. -/
def ofDirectoryPath? (path : Path) : Option Uri :=
  (ofFilePath? path).map fun uri =>
    if uri.path.endsWith "/" then uri else { uri with path := uri.path ++ "/" }

/-- A drive letter at the end of a path is followed by a slash. -/
def closeDrive (path : List Char) : List Char :=
  match path.reverse with
  | mark :: letter :: _ :: _ =>
    if letter.isAlpha ∧ (mark = ':' ∨ mark = '|') then path ++ ['/'] else path
  | _ => path

/-- The path on this host that a URI of any scheme names. -/
def toFilePath? (uri : Uri) : Option Path :=
  let host := (uri.authority.getD {}).host
  match uri.segments? with
  | none => none
  | some segments =>
    if host = "" ∨ host = "localhost" then
      some ⟨String.ofList (closeDrive
        (segments.flatMap fun segment => '/' :: Percent.decode segment.toList))⟩
    else none

end Uri

namespace ModuleName

def ofUri (uri : Uri) : ModuleName :=
  match if uri.scheme = "file" then uri.toFilePath? else none with
  | some path => ofPath path
  | none => ⟨uri.text⟩

end ModuleName

end LuauWorkspace

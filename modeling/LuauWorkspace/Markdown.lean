/-!
# Markdown

Hover texts, signatures and completion items are written in Markdown.
-/
namespace LuauWorkspace.Markdown

def codeBlock (language code : String) : String :=
  "\x60\x60\x60" ++ language ++ "\n" ++ code ++ "\n\x60\x60\x60"

/-- Stands between the type of a symbol and its documentation. -/
def separator : String := "\n----------\n"

end LuauWorkspace.Markdown

/-!
# Name and version

What the program calls itself: to the client, in settings and on the command line.
-/
namespace LuauWorkspace

def programName : String := "luau-lsp"

def programVersion : String := "0.2.0"

end LuauWorkspace

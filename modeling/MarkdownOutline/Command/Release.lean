/-!
# Release

The name and version that the program gives of itself.
-/

namespace MarkdownOutline

def programName : String := "mdr"

def programVersion : String := "0.1.0"

/-- One line on the version and the system that the program is made for. -/
def buildSummary : String := "mdrefactor-core v" ++ programVersion ++ " on linux"

end MarkdownOutline

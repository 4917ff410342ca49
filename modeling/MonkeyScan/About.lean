/-!
What the program calls itself.
-/

namespace MonkeyScan.About

/-- The version of the program. -/
def version : String := "0.1.0"

/-- The name of the language server. -/
def serverName : String := "monkeylex-lsp"

end MonkeyScan.About

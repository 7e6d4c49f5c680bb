/-!
# The program's own names

What the program is called in messages, directories, variables and logs.
-/
namespace ToolHost.Product

def name : String := "toolbridge"

def version : String := "0.1.0"

/-- The directory that holds the program's files below a home or project directory. -/
def hiddenDirectory : String := "." ++ name

/-- The name of a variable that sets something for the program. -/
def variableName (suffix : String) : String := "TOOLBRIDGE_" ++ suffix

/-- The name of a logger below the program's own. -/
def logger (child : String) : String := if child = "" then name else name ++ "." ++ child

end ToolHost.Product

import ToolHost.Shell.Words

/-!
# Writing words on a command line

A word of harmless characters is written as it is. Any other word stands between single quotes; a
single quote in it closes them, is written between double quotes, and opens them again.
-/
namespace ToolHost.Shell

/-- Characters that mean themselves outside quotes. -/
def isHarmless (c : Char) : Bool :=
  c.isAlphanum || "_@%+=:,./-".toList.contains c

/-- One character between single quotes. -/
def quoteChar (c : Char) : List Char :=
  if c = '\'' then ['\'', '"', '\'', '"', '\''] else [c]

def quoteWord (word : List Char) : List Char :=
  if !word.isEmpty && word.all isHarmless then word
  else '\'' :: word.flatMap quoteChar ++ ['\'']

/-- A word as it is written on a command line. -/
def quote (word : String) : String :=
  String.ofList (quoteWord word.toList)

/-- The command line of some words. -/
def join (words : List String) : String :=
  " ".intercalate (words.map quote)

end ToolHost.Shell

/-!
# Words of a command line

A command line is cut into words as a POSIX shell does it: at blanks, except where quotes or a
backslash protect them. Between single quotes nothing is special; between double quotes a
backslash protects a double quote and itself.
-/
namespace ToolHost.Shell

/-- Why a text is no command line. -/
inductive WordsError
  | unclosedQuote
  | danglingBackslash
  deriving DecidableEq, Repr

def WordsError.message : WordsError → String
  | unclosedQuote => "No closing quotation"
  | danglingBackslash => "No escaped character"

/-- What separates words. -/
def isSeparator (c : Char) : Bool :=
  c = ' ' || c = '\t' || c = '\r' || c = '\n'

/-- Where the reader stands. -/
inductive Mode
  /-- Between words. -/
  | between
  /-- In a word, outside quotes. -/
  | bare
  | singleQuoted
  | doubleQuoted
  /-- Behind a backslash outside quotes. -/
  | escaped
  /-- Behind a backslash between double quotes. -/
  | escapedInQuotes
  deriving DecidableEq, Repr

/-- Reads on; `word` is the word under way, reversed. -/
def wordsFrom : Mode → List Char → List Char → Except WordsError (List (List Char))
  | .between, _, [] => .ok []
  | .bare, word, [] => .ok [word.reverse]
  | .singleQuoted, _, [] | .doubleQuoted, _, [] => .error .unclosedQuote
  | .escaped, _, [] | .escapedInQuotes, _, [] => .error .danglingBackslash
  | .between, word, c :: rest =>
    if isSeparator c then wordsFrom .between word rest
    else if c = '\'' then wordsFrom .singleQuoted [] rest
    else if c = '"' then wordsFrom .doubleQuoted [] rest
    else if c = '\\' then wordsFrom .escaped [] rest
    else wordsFrom .bare [c] rest
  | .bare, word, c :: rest =>
    if isSeparator c then (wordsFrom .between [] rest).map (word.reverse :: ·)
    else if c = '\'' then wordsFrom .singleQuoted word rest
    else if c = '"' then wordsFrom .doubleQuoted word rest
    else if c = '\\' then wordsFrom .escaped word rest
    else wordsFrom .bare (c :: word) rest
  | .singleQuoted, word, c :: rest =>
    if c = '\'' then wordsFrom .bare word rest else wordsFrom .singleQuoted (c :: word) rest
  | .doubleQuoted, word, c :: rest =>
    if c = '"' then wordsFrom .bare word rest
    else if c = '\\' then wordsFrom .escapedInQuotes word rest
    else wordsFrom .doubleQuoted (c :: word) rest
  | .escaped, word, c :: rest => wordsFrom .bare (c :: word) rest
  | .escapedInQuotes, word, c :: rest =>
    if c = '"' || c = '\\' then wordsFrom .doubleQuoted (c :: word) rest
    else wordsFrom .doubleQuoted (c :: '\\' :: word) rest

/-- The words of a command line. -/
def split (line : String) : Except WordsError (List String) :=
  (wordsFrom .between [] line.toList).map (·.map String.ofList)

end ToolHost.Shell

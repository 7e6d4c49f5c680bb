import ToolHost.Log.Level
import ToolHost.Product

/-!
# Log records
-/
namespace ToolHost.Log

structure Record where
  level : Int
  /-- The logger's name below the program's own. -/
  source : String
  message : String
  deriving DecidableEq, Repr

namespace Record

def logger (r : Record) : String := Product.logger r.source

def levelName (r : Record) : String := Log.levelName r.level

/-- The record as a line of a log, behind the time of day. -/
def line (r : Record) : String :=
  String.ofList ((r.levelName.toList).map Char.toLower) ++ " " ++ r.logger ++ ": " ++ r.message

end Record

end ToolHost.Log

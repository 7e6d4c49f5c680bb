import ToolHost.Config.Settings
import ToolHost.Text.Capital

/-!
# Log levels

Levels are numbers; a record is kept if its number reaches the level in force. Two levels stand
between the common ones: `verbose` and `trace`.
-/
namespace ToolHost.Log

def trace : Int := 5
def debug : Int := 10
def verbose : Int := 15
def info : Int := 20
def warning : Int := 30
def error : Int := 40
def critical : Int := 50

/-- The level that a capitalised name selects. -/
def named? (name : String) : Option Int :=
  match name with
  | "TRACE" => some trace
  | "DEBUG" => some debug
  | "VERBOSE" => some verbose
  | "INFO" => some info
  | "WARNING" => some warning
  | "ERROR" => some error
  | _ => none

/-- How a level is called in a record. -/
def levelName (level : Int) : String :=
  if level = 0 then "NOTSET"
  else if level = critical then "CRITICAL"
  else if level = error then "ERROR"
  else if level = warning then "WARNING"
  else if level = info then "INFO"
  else if level = verbose then "VERBOSE"
  else if level = debug then "DEBUG"
  else if level = trace then "TRACE"
  else "Level " ++ toString level

/-- The levels of the verbosities 0 to 4. -/
def ofVerbosity (n : Nat) : Int :=
  match n with
  | 0 => error
  | 1 => warning
  | 2 => info
  | 3 => verbose
  | _ => trace

/-- The verbosity of a run without flags. -/
def defaultVerbosity : Nat := 2

def greatestVerbosity : Nat := 4

/-- The verbosity that a number of flags asks for; none for no flags. -/
def verbosityOfFlags (count : Int) : Option Int :=
  if count ≤ 0 then none else some (min (defaultVerbosity + count) greatestVerbosity)

/-- A verbosity brought into range. -/
def clampVerbosity (i : Int) : Nat := (max 0 (min i greatestVerbosity)).toNat

/-- The level in force under some settings. The verbosity counts before the level. A verbosity
that is no integer counts only beyond the range of verbosities, where it is replaced by the
nearest one. -/
def Level.inForce (settings : Config.LogSettings) : Except Breakdown Int :=
  match settings.verbose with
  | .scalar .null =>
    if settings.level.isEmpty then .ok info
    else
      match settings.level with
      | .scalar (.text s) => .ok ((named? (Text.capitals s)).getD info)
      | .scalar (.octets _) => .ok info
      | _ => .error .missingField
  | .scalar (.bool b) => .ok (ofVerbosity (if b then 1 else 0))
  | .scalar (.int i) => .ok (ofVerbosity (clampVerbosity i))
  | .scalar (.float x) =>
    if x.toFloat > 4.0 then .ok (ofVerbosity greatestVerbosity)
    else if x.toFloat > 0.0 then .error .wrongKind
    else .ok (ofVerbosity 0)
  | _ => .error .wrongKind

end ToolHost.Log

import ToolHost.Failure
import ToolHost.Log.Record
import ToolHost.Machine.Host
import ToolHost.Shell.Quote
import ToolHost.Terminal.Style
import ToolHost.Text.Quoted

/-!
# Happenings

What becomes known of a run, in the order in which it comes about: what children do and what is
done to them, what is displayed, fetched and printed. The log is a view of the happenings.
-/
namespace ToolHost

open Machine (Bytes Variables)

/-- The number of a process. -/
abbrev Pid := Nat

/-- The number of a call that somebody waits for. -/
abbrev CallId := Nat

inductive Happening
  /-- A process was created, with its input and output connected to the program or not. -/
  | spawned (isPiped : Bool) (pid : Pid) (argv : List String) (dir : String) (extra : Variables)
  | spawnFailed (argv : List String) (dir : String)
  /-- A call came to the latch of a name. -/
  | approached (name : SessionName) (call : CallId)
  /-- A call was let into the latch of a name and found a process recorded, or none. -/
  | entered (name : SessionName) (call : CallId) (recorded : Option Pid)
  /-- A call left the latch of a name, with a process recorded or none. -/
  | left (name : SessionName) (call : CallId) (recorded : Option Pid)
  /-- A session was asked for that is there already. -/
  | alreadyLive (name : SessionName) (pid : Pid)
  | started (name : SessionName) (pid : Pid) (dir : String)
  /-- The output of a stopped session did not end in the time it had. -/
  | outlasted (name : SessionName) (time : String)
  | stopped (name : SessionName) (pid : Pid)
  /-- A process wrote what is to be read of it. -/
  | uttered (pid : Pid) (portion : Bytes)
  /-- A portion of a session's output was read. -/
  | produced (name : SessionName) (pid : Pid) (portion : Bytes)
  /-- Output was put on display. -/
  | appended (name : SessionName) (pid : Pid) (text : Terminal.StyledText)
  | cleared (name : SessionName)
  /-- A session's output and process ended. -/
  | ended (name : SessionName) (pid : Pid) (code : Int)
  /-- A call wrote to a process. -/
  | wrote (call : CallId) (pid : Pid) (piece : Bytes)
  /-- A line was delivered. -/
  | sent (name : SessionName) (line : String)
  | inputClosed (pid : Pid)
  /-- A process ended by itself. -/
  | exited (pid : Pid) (code : Int)
  | killed (pid : Pid)
  /-- A process was to be killed and had ended. -/
  | gone (pid : Pid) (code : Int)
  /-- A single command was launched. -/
  | launched (command : String) (pid : Pid) (dir : String)
  /-- The end of a single command was noticed. -/
  | reaped (command : String) (pid : Pid) (code : Int)
  /-- A named command was called. -/
  | invoked (name : String)
  | present (path : String)
  | fetching (url : String)
  | requested (url : String)
  | fetched (url : String) (status size : Nat)
  | installed (path : String) (size : Nat)
  /-- A line was printed for the user of a session. -/
  | printed (line : String)
  /-- A line was printed about the command as a whole. -/
  | reported (line : String)
  | logged (record : Log.Record)
  deriving DecidableEq, Repr

namespace Happening

def withPid (pid : Pid) : String := " (pid=" ++ toString pid ++ ")"

/-- What the log says about a happening. -/
def record? : Happening → Option Log.Record
  | spawned isPiped pid argv _ _ =>
    some ⟨Log.debug, "terminal", "Spawned " ++ (if isPiped then "piped" else "detached") ++
      " pid=" ++ toString pid ++ ": " ++ Shell.join argv⟩
  | alreadyLive name pid =>
    some ⟨Log.debug, "session", "Session " ++ name.written ++ " already live" ++ withPid pid⟩
  | started name pid dir =>
    some ⟨Log.info, "session", "Started session " ++ name.written ++ withPid pid ++ " in " ++ dir⟩
  | outlasted name time =>
    some ⟨Log.verbose, "session",
      "Session " ++ name.written ++ " did not finish within " ++ time ++ "s"⟩
  | stopped name pid =>
    some ⟨Log.info, "session", "Stopped session " ++ name.written ++ withPid pid⟩
  | produced name _ portion =>
    some ⟨Log.trace, "session",
      "Session " ++ name.written ++ " produced " ++ toString portion.length ++ " bytes"⟩
  | ended name _ code =>
    some ⟨Log.info, "session", "Session " ++ name.written ++ " exited with code " ++ toString code⟩
  | sent name line =>
    some ⟨Log.trace, "session", "Sent to session " ++ name.written ++ ": " ++ Text.quoted line⟩
  | launched command pid dir =>
    some ⟨Log.info, "session", "Launched " ++ command ++ withPid pid ++ " in " ++ dir⟩
  | reaped command pid code =>
    some ⟨Log.verbose, "session", command ++ withPid pid ++ " exited with code " ++ toString code⟩
  | invoked name => some ⟨Log.debug, "commands", "Invoking command " ++ name⟩
  | present path => some ⟨Log.debug, "installer", "Artifact already present at " ++ path⟩
  | fetching url => some ⟨Log.info, "installer", "Fetching " ++ url⟩
  | fetched url status size =>
    some ⟨Log.verbose, "installer",
      "GET " ++ url ++ " -> " ++ toString status ++ " (" ++ toString size ++ " bytes)"⟩
  | installed path size =>
    some ⟨Log.info, "installer", "Installed " ++ path ++ " (" ++ toString size ++ " bytes)"⟩
  | logged record => some record
  | _ => none

end Happening

end ToolHost

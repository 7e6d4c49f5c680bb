import ToolHost.Happening
import ToolHost.Machine.Path
import ToolHost.Terminal.Filter
import ToolHost.Text.Utf8

/-!
# The process of a session

A process as the program sees it, and the relay that reads its output in portions, decodes them
and passes them through the output filter. The relay sleeps while there is nothing to read; when
the output ends it shows what the decoder and the filter still hold and waits for the process to
end.
-/
namespace ToolHost.Session

open Machine (Bytes Path)

/-- What becomes of a process that is killed. -/
inductive KillResponse
  /-- It ends at once. -/
  | dies
  /-- It turns out to have ended before. -/
  | gone (code : Int)
  /-- It ends some time later. -/
  | lingers
  deriving DecidableEq, Repr

/-- What becomes of a line that is written to a process. -/
inductive WriteResponse
  | accepted
  /-- The line is written, but the connection turns out to be broken. -/
  | broken
  /-- The line is written, but the writer has to wait. -/
  | blocked
  deriving DecidableEq, Repr

/-- What is fixed about a process when it is created. -/
structure Traits where
  hasInput : Bool := true
  hasOutput : Bool := true
  /-- The output does not end with the process. -/
  keepsOutput : Bool := false
  onKill : KillResponse := .dies
  onWrite : WriteResponse := .accepted
  deriving DecidableEq, Repr

/-- Where the relay of a process stands. -/
inductive Progress
  | unstarted
  /-- Asleep until there is something to read. -/
  | reading
  /-- About to read on. -/
  | readable
  /-- Behind the end of the output, asleep until the process ends. -/
  | awaiting
  /-- About to see the end of the process. -/
  | released
  | done
  deriving DecidableEq, Repr

structure Relay where
  progress : Progress := .unstarted
  /-- The relay is to end where it stands. -/
  isCancelled : Bool := false
  decoder : Text.Utf8.State := none
  filter : Terminal.Filter := {}
  deriving DecidableEq, Repr

namespace Relay

def isDone (r : Relay) : Bool := r.progress = .done

/-- Whether a portion of output can be read. -/
def canRead (r : Relay) (portion : Bytes) : Bool :=
  r.filter.canRead (Text.Utf8.feed r.decoder portion).2

/-- The text that a portion of output shows. -/
def feed (r : Relay) (portion : Bytes) : Terminal.StyledText × Relay :=
  let (decoder, chars) := Text.Utf8.feed r.decoder portion
  let (text, filter) := r.filter.feed chars
  (text, { r with decoder, filter })

/-- The text that the end of the output shows. -/
def tail (r : Relay) : Terminal.StyledText × Relay :=
  let (text, filter) := r.filter.feed (Text.Utf8.finish r.decoder)
  let (rest, filter) := filter.flush
  (text ++ rest, { r with decoder := none, filter })

end Relay

structure Child where
  pid : Pid
  dir : Path := ⟨.here, []⟩
  traits : Traits := {}
  /-- The session of this process has been stopped. -/
  isStopped : Bool := false
  code : Option Int := none
  inputClosed : Bool := false
  /-- Output that has not been read, in the portions in which it was written. -/
  output : List Bytes := []
  outputClosed : Bool := false
  relay : Relay := {}
  deriving DecidableEq, Repr

namespace Child

def hasEnded (c : Child) : Bool := c.code.isSome

/-- A process is live until it ends or its session is stopped. -/
def isLive (c : Child) : Bool := !c.isStopped && !c.hasEnded

/-- Wakes the relay if there is what it sleeps for; the answer tells whether it was woken. -/
def rouse (c : Child) : Child × Bool :=
  let woken (p : Progress) : Child × Bool :=
    ({ c with relay := { c.relay with progress := p } }, true)
  match c.relay.progress with
  | .reading => if !c.output.isEmpty || c.outputClosed then woken .readable else (c, false)
  | .awaiting => if c.hasEnded then woken .released else (c, false)
  | _ => (c, false)

/-- Tells the relay to end; the answer tells whether it was asleep. -/
def cancelRelay (c : Child) : Child × Bool :=
  let cancelled (p : Progress) : Child :=
    { c with relay := { c.relay with progress := p, isCancelled := true } }
  match c.relay.progress with
  | .reading => (cancelled .readable, true)
  | .awaiting => (cancelled .released, true)
  | p => (cancelled p, false)

/-- The process ends. Its output ends with it unless somebody else keeps that open. -/
def finish (c : Child) (code : Int) : Child :=
  { c with code := some code, outputClosed := c.outputClosed || !c.traits.keepsOutput }

/-- The process writes. An empty portion is none. -/
def write (c : Child) (portion : Bytes) : Child :=
  if portion.isEmpty || c.outputClosed then c else { c with output := c.output ++ [portion] }

end Child

/-- The most octets that are read at once. -/
def portionSize : Nat := 4096

/-- Octets in portions of the size that is read at once. -/
def portions (bytes : Bytes) : List Bytes :=
  if bytes.isEmpty then []
  else bytes.take portionSize :: portions (bytes.drop portionSize)
termination_by bytes.length
decreasing_by
  simp only [List.length_drop, portionSize]
  have : 0 < bytes.length := by
    cases bytes with
    | nil => simp_all
    | cons => simp
  omega

end ToolHost.Session

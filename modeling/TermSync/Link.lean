import TermSync.Wire.Inbound
import TermSync.Wire.Outbound

/-!
# The link to the backend

A socket that is opened again whenever it is lost, until it is closed for good. While it is down,
what is emitted is dropped: those above rely on records that may come twice, not on messages that
are kept.

The link has two sides: a handle, through which events are emitted and the link is closed, and a
task, which holds the connection. Between them there is a queue. The stimuli of both sides may come
in any order; one that does not fit the task's phase does nothing.

An operation is one step, with what it looks at: to emit is to see whether the link is up and to
queue the frame, and to begin an attempt is to see whether the link is closed and to connect. So
nothing comes between the look and what follows from it, such as a loss of the connection between
the check of the handle and its queueing. Main law: `run_append`.
-/

namespace TermSync

open Text (Bytes)
open Wire (Inbound Outbound Version)

namespace Link

/-- What the handle has put into the queue. -/
inductive Outgoing where
  | frame (text : String)
  | close
deriving DecidableEq, Repr

/-- What the task is doing. -/
inductive Phase where
  /-- It is about to try to connect. -/
  | idle
  /-- It tries to connect. -/
  | connecting
  /-- It has a connection. -/
  | live
  /-- It waits before the next attempt. -/
  | resting
  /-- It is done. -/
  | finished
deriving DecidableEq, Repr

/-- A message that arrives over a connection. -/
inductive Message where
  | text (s : String)
  | binary (data : Bytes)
  | ping (data : Bytes)
deriving DecidableEq, Repr

/-- What may happen to a link. -/
inductive Stimulus where
  /-- The handle emits an event. -/
  | emit (e : Outbound)
  /-- The handle closes the link, or is dropped. -/
  | close
  /-- The task begins an attempt to connect. -/
  | attempt
  /-- The attempt fails. -/
  | refused
  /-- The attempt succeeds. -/
  | opened
  /-- A message arrives. -/
  | arrived (m : Message)
  /-- The connection ends, for whatever reason. -/
  | lost
  /-- The task takes what is first in the queue. Writing it may fail. -/
  | take (writable : Bool)
  /-- The wait before the next attempt is over. -/
  | rested
  /-- Nobody listens to events any more. -/
  | unheard
deriving Repr

/-- What a link does to the outside. -/
inductive Effect where
  /-- An event comes out. -/
  | deliver (e : Inbound)
  /-- An attempt to connect begins. -/
  | connect
  /-- A frame is written. -/
  | write (text : String)
  /-- A ping is answered. -/
  | pong (data : Bytes)
  /-- The connection is closed properly. -/
  | goodbye
deriving DecidableEq, Repr

end Link

/-- A link. -/
structure Link where
  version : Version
  /-- Whether there is a connection, as the handle sees it. -/
  connected : Bool := false
  /-- Whether the handle has closed the link. -/
  closed : Bool := false
  queue : List Link.Outgoing := []
  phase : Link.Phase := .idle
  /-- Whether the last event about the connection was that it came up. -/
  reportedUp : Option Bool := none
  /-- Whether somebody listens to events. -/
  heard : Bool := true
deriving DecidableEq, Repr

namespace Link

/-- The task is done. -/
def finish (l : Link) : Link := { l with phase := .finished, connected := false }

/-- The connection is down. That is reported unless it was the last thing reported. -/
def down (l : Link) : Link × List Effect :=
  let l := { l with connected := false }
  if l.reportedUp = some false then ({ l with phase := .resting }, [])
  else if l.heard then
    ({ l with phase := .resting, reportedUp := some false }, [.deliver .disconnected])
  else ({ l with reportedUp := some false }.finish, [])

/-- Let an event out. If nobody listens, the connection is closed. -/
def deliver (l : Link) (e : Inbound) : Link × List Effect :=
  if l.heard then (l, [.deliver e]) else (l.finish, [.goodbye])

/-- The connection is up. -/
def up (l : Link) : Link × List Effect :=
  { l with phase := .live, connected := true, reportedUp := some true }.deliver .connected

/-- A message has arrived. Frames that are no events are ignored. -/
def receive (l : Link) : Message → Link × List Effect
  | .text s =>
    match Inbound.decode s with
    | .ok e => l.deliver e
    | .error _ => (l, [])
  | .binary _ => (l, [])
  | .ping data => (l, [.pong data])

/-- The task has taken something from the queue while it has a connection. -/
def write (l : Link) (writable : Bool) : Outgoing → Link × List Effect
  | .frame text => if writable then (l, [.write text]) else l.down
  | .close => (l.finish, [.goodbye])

/-- The task has taken something from the queue while it waits. -/
def discard (l : Link) : Outgoing → Link
  | .frame _ => l
  | .close => l.finish

/-- Take what is first in the queue. -/
def take (l : Link) (writable : Bool) : Link × List Effect :=
  match l.phase, l.queue with
  | .live, first :: rest => { l with queue := rest }.write writable first
  | .resting, first :: rest => ({ l with queue := rest }.discard first, [])
  | _, _ => (l, [])

/-- What a stimulus does. -/
def step (l : Link) (s : Stimulus) : Link × List Effect :=
  match s, l.phase with
  | .emit e, _ =>
    if l.closed || !l.connected then (l, [])
    else ({ l with queue := l.queue ++ [.frame (e.encode l.version)] }, [])
  | .close, _ =>
    if l.closed then (l, []) else ({ l with closed := true, queue := l.queue ++ [.close] }, [])
  | .unheard, _ => ({ l with heard := false }, [])
  | .take writable, _ => l.take writable
  | .attempt, .idle =>
    if l.closed then (l.finish, []) else ({ l with phase := .connecting }, [.connect])
  | .refused, .connecting => l.down
  | .opened, .connecting => l.up
  | .arrived m, .live => l.receive m
  | .lost, .live => l.down
  | .rested, .resting => ({ l with phase := .idle }, [])
  | _, _ => (l, [])

/-- What a list of stimuli does. -/
def run (l : Link) : List Stimulus → Link × List Effect
  | [] => (l, [])
  | s :: rest =>
    let (next, effects) := l.step s
    let (last, more) := run next rest
    (last, effects ++ more)

/-- Whether the events have ended. -/
def isFinished (l : Link) : Bool := l.phase == .finished

/-- Stimuli are taken one after the other. -/
theorem run_append (l : Link) (as bs : List Stimulus) :
    l.run (as ++ bs) =
      (((l.run as).1.run bs).1, (l.run as).2 ++ ((l.run as).1.run bs).2) := by
  induction as generalizing l with
  | nil => simp [run]
  | cons s as ih => simp [run, ih, List.append_assoc]

end Link
end TermSync

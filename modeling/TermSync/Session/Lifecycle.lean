import TermSync.Time.Countdown

/-!
# The life of a session

A session is alive until it is ended, and it is ended once. While both of its timestamps are known
it counts down to its expiry.
-/

namespace TermSync.Session

open Time (Instant Span)

/-- What is known about the session itself. -/
structure Lifecycle where
  id : String
  createdAt : Option Instant := none
  expiresAt : Option Instant := none
  /-- Whether the backend is done provisioning. -/
  ready : Bool := true
  /-- Whether the session has not been ended. -/
  alive : Bool := true
deriving DecidableEq, Repr

namespace Lifecycle

/-- End the session, and tell whether it was alive. -/
def finish (s : Lifecycle) : Bool × Lifecycle := (s.alive, { s with alive := false })

/-- The time left until expiry, never below zero. -/
def remaining (s : Lifecycle) (now : Instant) : Option Span :=
  match s.createdAt, s.expiresAt with
  | some _, some expires => some (max (expires.since now) 0)
  | _, _ => none

/-- The countdown as it is shown. -/
def countdownText (s : Lifecycle) (now : Instant) : String :=
  Time.countdownText (s.remaining now)

end Lifecycle
end TermSync.Session

import TermSync.Session.Failure

/-!
# Notices

What the user is told.
-/

namespace TermSync.Session

/-- An outcome that the user is told about. -/
inductive Notice where
  /-- No instance was created: the session has as many as it may have. -/
  | capacityExceeded
  /-- No instance was created: the backend has no room. -/
  | outOfCapacity
  /-- The session has ended and its instances are gone. -/
  | sessionEnded
  /-- Something that was attempted failed. -/
  | requestFailed (action : String) (message : String)
  /-- The channel went up or down. -/
  | connectionChanged (connected : Bool)
deriving DecidableEq, Repr

namespace Notice

/-- The notice about a failed attempt. -/
def ofFailure (action : String) (f : Failure) : Notice :=
  match f with
  | .capacity => .capacityExceeded
  | .resourceExhausted => .outOfCapacity
  | .terminated => .sessionEnded
  | f => .requestFailed action f.message

/-- The wording of a notice. -/
def describe : Notice → String
  | .capacityExceeded => "Max instances reached"
  | .outOfCapacity => "The playground is out of capacity, try again later"
  | .sessionEnded => "Session ended: it expired or was closed, and all instances are gone"
  | .requestFailed action message => action ++ " failed: " ++ message
  | .connectionChanged true => "Connected"
  | .connectionChanged false => "Connection lost, retrying"

end Notice
end TermSync.Session

/-!
# Failures

What can go wrong when the session is asked for something. A failure is told to the user; none of
them changes what is known about the instances.
-/

namespace TermSync.Session

/-- Why a request or a command failed. -/
inductive Failure where
  /-- The backend cannot be reached. -/
  | connectivity
  /-- The session has as many instances as it may have. -/
  | capacity
  /-- The backend has no room for new instances. -/
  | resourceExhausted
  /-- There is no such session. -/
  | notFound (session : String)
  /-- The backend refused. -/
  | request (reason : String)
  /-- The session has ended. -/
  | terminated
  /-- There is no such instance. -/
  | unknownInstance (name : String)
  /-- The instance has no terminal that could be typed into. -/
  | detached (name : String)
deriving DecidableEq, Repr

namespace Failure

/-- The wording of a failure. -/
def message : Failure → String
  | .connectivity => "backend unreachable"
  | .capacity => "maximum number of instances reached"
  | .resourceExhausted => "backend is out of capacity"
  | .notFound session => "session " ++ session ++ " not found"
  | .request reason => "request failed: " ++ reason
  | .terminated => "session has been terminated"
  | .unknownInstance name => "unknown instance: " ++ name
  | .detached name => "instance " ++ name ++ " has no attached terminal"

/-- Whether the session cannot go on. -/
def isFatal : Failure → Bool
  | .notFound _ | .terminated => true
  | _ => false

/-- Whether an instance was refused for want of room. -/
def isCapacity : Failure → Bool
  | .capacity | .resourceExhausted => true
  | _ => false

end Failure
end TermSync.Session

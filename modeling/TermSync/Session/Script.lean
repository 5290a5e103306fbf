import TermSync.Session.Loop

/-!
# Scripted backends

A backend whose answers are written down beforehand, for trying a session out: two lists say what
it answers and how long that takes. When a list is used up, nothing more can be created, and
everything can be deleted. Requests are logged as they are sent.
-/

namespace TermSync.Session

open Roster (Record)

/-- What a backend will answer, and the requests that it got. -/
structure Script where
  creates : List (Nat × Except Failure Record) := []
  deletes : List (Nat × Except Failure Unit) := []
  log : List Request := []

namespace Script

/-- The answer to a request, and the time that it takes in milliseconds. -/
def answer (s : Script) (r : Request) : Script × Nat × Event :=
  let s := { s with log := s.log ++ [r] }
  match r with
  | .create key _ =>
    match s.creates with
    | (delay, a) :: rest => ({ s with creates := rest }, delay, .created key a)
    | [] => (s, 0, .created key (.error (.request "unscripted create")))
  | .delete name =>
    match s.deletes with
    | (delay, a) :: rest => ({ s with deletes := rest }, delay, .deleted name a)
    | [] => (s, 0, .deleted name (.ok ()))

/-- The backend that follows a script. -/
def backend (s : Script) : Backend Script := { memory := s, answer }

end Script
end TermSync.Session

import TermSync.Session.Loop

/-!
# Runs of a session

A session responds to what reaches it, one thing at a time: the answer to its first request,
commands, inbound events, firings of timers and answers to requests, what its embedder does to it,
changes of the display, and the passing of time. A run is any sequence of these, in any order: in
particular timers may fire late or twice, and answers may come that nobody asked for.

Main laws: `run_append` (a run goes on from where it stands), `run_induction` (what every response
keeps holds after every run).
-/

namespace TermSync.Session

open Rest (SessionRecord)
open Terminal (Geometry)
open Wire (Inbound)

/-- Something that reaches a session. -/
inductive Stimulus where
  /-- The backend has answered what the session is. -/
  | bootstrap (answer : Except Failure SessionRecord)
  /-- A command. The key is for the placeholder, if the command needs one. -/
  | command (key : String) (c : Command)
  /-- The backend tells something. -/
  | inbound (e : Inbound)
  /-- A timer has fired, or a request was answered. -/
  | event (e : Event)
  /-- The embedder, or an observer, shows an instance. -/
  | select (name : String)
  /-- The embedder, or an observer, attaches a widget to the builder console. -/
  | attachBuilder
  /-- The embedder, an observer or the loop tells the user something. -/
  | tell (n : Notice)
  /-- Time passes until some moment, and the timers fire that are due by then. -/
  | pass (moment : Nat)
  /-- The clock is set. What falls due by then is outstanding. -/
  | setClock (moment : Nat)
  /-- So many requests get their numbers. -/
  | number (count : Nat)
  /-- The display changed: the widgets would like other geometries from now on. -/
  | refit (fits : String → Option Geometry)

namespace State

/-- What a session does about a stimulus. What is refused changes nothing. -/
def respond (s : State) (x : Stimulus) : Step :=
  let stay : Step := { state := s }
  match x with
  | .bootstrap answer => stay.orStay fun s => s.bootstrap answer
  | .command key c => stay.orStay fun s => s.execute key c
  | .inbound e => if s.isAlive then (s.apply e).1 else stay
  | .event e => s.handle e
  | .select name => stay.orStay fun s => s.select name
  | .attachBuilder => s.attachBuilder.2
  | .tell n => s.tell n
  | .pass moment => { state := Loop.moveState moment s }
  | .setClock moment => { state := { s with now := moment } }
  | .number count => { state := { s with nextSerial := s.nextSerial + count } }
  | .refit fits => { state := { s with fits } }

/-- What a session does about one stimulus after the other. -/
def run (s : State) : List Stimulus → Step
  | [] => { state := s }
  | x :: xs => (s.respond x).andThen fun s => s.run xs

@[simp] theorem run_nil (s : State) : s.run [] = { state := s } := rfl

theorem run_cons (s : State) (x : Stimulus) (xs : List Stimulus) :
    s.run (x :: xs) = (s.respond x).andThen fun s => s.run xs := rfl

/-- A run goes on from where it stands. -/
theorem run_append (s : State) (xs ys : List Stimulus) :
    s.run (xs ++ ys) = (s.run xs).andThen fun s => s.run ys := by
  induction xs generalizing s with
  | nil => simp [Step.andThen]
  | cons x xs ih =>
    rw [List.cons_append, run_cons, run_cons, Step.andThen_assoc]
    congr 1
    funext t
    exact ih t

/-- What holds at first and is kept by every response holds after every run. -/
theorem run_induction {P : State → Prop} {s : State} (h : P s)
    (hstep : ∀ s x, P s → P (s.respond x).state) (xs : List Stimulus) : P (s.run xs).state := by
  induction xs generalizing s with
  | nil => exact h
  | cons x xs ih => exact ih (hstep s x h)

/-- What comes of a run, stimulus by stimulus. -/
def gather {β : Type} (f : State → Stimulus → List β) (s : State) : List Stimulus → List β
  | [] => []
  | x :: xs => f s x ++ (s.respond x).state.gather f xs

/-- What comes of the stimuli alone comes of them whatever the run. -/
theorem gather_append {β : Type} (f : State → Stimulus → List β) (s : State)
    (xs ys : List Stimulus) :
    s.gather f (xs ++ ys) = s.gather f xs ++ (s.run xs).state.gather f ys := by
  induction xs generalizing s with
  | nil => rfl
  | cons x xs ih =>
    rw [List.cons_append, gather, gather, ih, List.append_assoc]
    rfl

theorem gather_eq_flatMap {β : Type} (f : Stimulus → List β) (s : State) (xs : List Stimulus) :
    s.gather (fun _ => f) xs = xs.flatMap f := by
  induction xs generalizing s with
  | nil => rfl
  | cons x xs ih => rw [gather, ih, List.flatMap_cons]

end State
end TermSync.Session

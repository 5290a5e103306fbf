import TermSync.Console.Arguments
import TermSync.Console.Display
import TermSync.Console.Line
import TermSync.Session.Work

/-!
# The console program

A session that is followed from a terminal: lines that are typed become commands, or input for the
instance that has the keyboard; notices are shown as lines on standard error.

The program is a state with its moves: a line was typed, a notice is shown, an event was handled.
What it writes, and what it does to the channel and the backend, are values.
-/

namespace TermSync.Console

open Rest (SessionRecord)
open Session
open Text (Bytes)
open Wire (Inbound)

/-- The name of the program, and its version. -/
def version : String := "playground 0.3.0"

/-- A running program. -/
structure App where
  state : State
  display : Display := {}
  /-- What the user has not been told yet. -/
  notices : List Notice := []
  /-- The image of new instances. -/
  image : Option String := none

/-- What a move leads to: the program, what it writes, and what it does to the channel and the
backend. -/
structure Move where
  app : App
  outputs : List Output := []
  effects : List Effect := []

namespace App

/-- Take over a step: its widgets write to the display, its notices wait to be shown, and the rest
is left to the outside. -/
def absorb (a : App) (t : Step) : Move :=
  let (display, outputs) := a.display.calls (Effect.calls t.effects)
  { app := { a with state := t.state, display, notices := a.notices ++ Effect.notices t.effects }
    outputs
    effects := t.effects.filter fun
      | .make _ | .call _ | .tell _ => false
      | _ => true }

/-- Write one line, and change nothing. -/
def say (a : App) (line : String) : Move := { app := a, outputs := [Output.line line] }

/-- A program that has not loaded its session yet. The builder's console is shown from the
beginning. -/
def initial (id : String) (setup : Setup) (image : Option String) : App :=
  let s := State.initial id setup
  let t := s.attachBuilder.2
  { state := t.state, display := { builder := t.state.builder.widget }, image }

/-- Carry out a command, or say why it is refused. -/
def command (a : App) (key : String) (c : Command) : Move :=
  match (Work.execute key c).on a.state with
  | (.ok (), t) => a.absorb t
  | (.error e, t) =>
    let m := a.absorb t
    { m with outputs := m.outputs ++ [Output.line e.message] }

/-- A line was typed. A new instance gets the key. -/
def line (a : App) (key : String) (typed : String) : Move :=
  match LineAction.ofLine typed a.image with
  | .command c => a.command key c
  | .list => { app := a, outputs := (listing a.state).map Output.line }
  | .input text =>
    match a.display.focused with
    | some name => a.command key (.input name (Inbound.bytesOf text))
    | none => a.say "no instance selected (use :new)"
  | .unknown text => a.say ("unknown command: " ++ text)

/-- Show the first notice that waits. -/
def notice (a : App) : Move :=
  match a.notices with
  | n :: rest => { app := { a with notices := rest }, outputs := [Output.line n.describe] }
  | [] => { app := a }

/-- An inbound event arrived. -/
def receive (a : App) (e : Inbound) : Move :=
  if a.state.isAlive then a.absorb (a.state.apply e).1 else { app := a }

/-- Something happened on this side. -/
def handle (a : App) (e : Event) : Move := a.absorb (a.state.handle e)

/-- Show all notices that wait. -/
def finish (a : App) : Move :=
  { app := { a with notices := [] }, outputs := a.notices.map fun n => Output.line n.describe }

/-- The lines of a text, each of them indented. -/
def indented (s : String) : String :=
  String.ofList (' ' :: ' ' :: ' ' :: ' ' :: s.toList.flatMap fun c =>
    if c = '\n' then ['\n', ' ', ' ', ' ', ' '] else [c])

/-- The wording of a failure to load the session, which ends the program. -/
def loadError : Failure → String
  | .notFound id => "Error: session not found: " ++ id
  | e => "Error: Failed to load session\n\nCaused by:\n" ++ indented e.message

/-- Load the session, given the backend's answer. If that fails, the program ends, and the result
is what it says. -/
def load (a : App) (answer : Except Failure SessionRecord) : Except Output Move :=
  match (Work.bootstrap answer).on a.state with
  | (.ok (), t) => .ok (a.absorb t)
  | (.error e, _) => .error (Output.line (loadError e))

end App
end TermSync.Console

import TermSync.Session.Inbound

/-!
# What happens on this side

Commands of the user, answers of the backend to requests, and firings of timers. A command that
cannot be carried out is refused and has no effect; after the end of the session every command is.
-/

namespace TermSync.Session

open Roster (Record)
open Rest (SessionRecord)

/-- What a timer or an answer has to tell. -/
inductive Event where
  /-- It is time to send what was typed into an instance. -/
  | flushTick (name : String)
  /-- Proposals for the viewport have ceased. -/
  | resizeSettled
  /-- It is time to compute the countdown. -/
  | countdownTick
  /-- The request for which a placeholder stands was answered. -/
  | created (key : String) (answer : Except Failure Record)
  /-- A request to delete was answered. -/
  | deleted (name : String) (answer : Except Failure Unit)

namespace State

/-- Carry out a command. A new instance is represented by a placeholder until the backend has
answered; its key must not be the name of anything else. -/
def execute (s : State) (key : String) (c : Command) : Except Failure Step :=
  if s.isAlive then
    match c with
    | .create request =>
      .ok { state := { s with roster := s.roster.insertPlaceholder key }
            effects := [.ask (.create key request)] }
    | .delete name =>
      if s.roster.contains name then .ok { state := s, effects := [.ask (.delete name)] }
      else .error (.unknownInstance name)
    | .select name => s.select name
    | .input name data =>
      match s.roster.get? name with
      | none => .error (.unknownInstance name)
      | some i =>
        if i.screen.isAttached then .ok { state := s.update name fun i => i.type data }
        else .error (.detached name)
    | .resize g => .ok { state := s.propose g }
    | .fit => .ok { state := s.propose? s.selectedFit }
    | .close => .ok (s.emit .sessionClose)
  else .error .terminated

/-- Take over what the backend tells about the session. The first instance is shown if none is
selected. -/
def load (s : State) (r : SessionRecord) : Except Failure Step :=
  let lifecycle :=
    { s.lifecycle with
      createdAt := r.createdAt
      expiresAt := r.expiresAt
      ready := r.ready.getD true }
  let roster := r.instances.foldl (fun roster entry => roster.upsert entry.2) s.roster
  let loaded : Step := { state := { s with lifecycle, roster } }
  let shown :=
    match roster.selected, roster.names.head? with
    | none, some name => loaded.attempt fun s => s.select name
    | _, _ => .ok loaded
  match shown with
  | .ok t => .ok (t.andThen fun s => { state := s.startCountdown })
  | .error e => .error e

/-- Load the session, given the backend's answer. -/
def bootstrap (s : State) (answer : Except Failure SessionRecord) : Except Failure Step :=
  if s.isAlive then
    match answer with
    | .ok r => s.load r
    | .error e => .error e
  else .error .terminated

/-- A request for a new instance was answered: the placeholder goes, and the instance comes and is
shown. If the request failed, the user is told. -/
def finishCreate (s : State) (key : String) (answer : Except Failure Record) : Step :=
  if s.isAlive then
    let t := s.forget key
    match answer with
    | .ok r =>
      (t.andThen fun s => { state := { s with roster := s.roster.upsert r } }).orStay
        fun s => s.select r.name
    | .error e => (t.andThen fun s => s.tell (.ofFailure "create" e)).orStay ensureShown
  else { state := s }

/-- A request to delete an instance was answered. If it failed, the user is told and nothing
changes. -/
def finishDelete (s : State) (name : String) (answer : Except Failure Unit) : Step :=
  if s.isAlive then
    match answer with
    | .ok () => (s.forget name).orStay ensureShown
    | .error e => s.tell (.ofFailure "delete" e)
  else { state := s }

/-- Send what was typed into an instance, up to a character that is not complete. -/
def flush (s : State) (name : String) : Step :=
  match s.roster.get? name with
  | none => { state := s }
  | some i =>
    let (text, rest) := i.takeTyped
    let flushed := { s with roster := s.roster.update name fun _ => rest }
    match text with
    | some text =>
      if s.isAlive then flushed.emit (.terminalIn i.name text) else { state := flushed }
    | none => { state := flushed }

/-- Send the proposed geometry, if it is worth sending. -/
def settle (s : State) : Step :=
  let (g, viewport) := s.viewport.settle
  let settled := { s with viewport }
  match g with
  | some g => if s.isAlive then settled.emit (.viewportResize g) else { state := settled }
  | none => { state := settled }

/-- What an event does. -/
def handle (s : State) (e : Event) : Step :=
  match e with
  | .flushTick name => s.flush name
  | .resizeSettled => s.settle
  | .countdownTick => { state := if s.isAlive then s.refreshCountdown else s }
  | .created key answer => s.finishCreate key answer
  | .deleted name answer => s.finishDelete name answer

end State
end TermSync.Session

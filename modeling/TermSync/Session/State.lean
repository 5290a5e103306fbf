import TermSync.Config
import TermSync.Rest.SessionRecord
import TermSync.Roster.Basic
import TermSync.Session.Command
import TermSync.Session.Lifecycle
import TermSync.Session.Notice
import TermSync.Session.Viewport
import TermSync.Wire.Outbound

/-!
# The state of a session

Everything that the client knows about the session it follows, and the steps of which all others
are made: to display an instance, to propose a geometry, to count down, to end.

A step leads to a state and has effects on the outside; both are values. Main law:
`andThen_assoc` (steps can be grouped freely).
-/

namespace TermSync.Session

open Roster (Instance Record)
open Terminal (Call Geometry Screen Widget)
open Time (Instant Span Timer)
open Wire (Outbound)

/-- What a session works with, and no step changes. -/
structure Setup where
  /-- How often typed input is sent, in milliseconds. -/
  flushInterval : Nat := 70
  /-- How long proposals for the viewport have to cease, in milliseconds. -/
  resizeDebounce : Nat := 100
  /-- The time at which the client's clock showed zero. -/
  started : Instant := Instant.ofMillis 0

/-- What a session works with that follows a configuration. -/
def Setup.ofConfig (c : Config) : Setup where
  flushInterval := c.flushInterval
  resizeDebounce := c.resizeDebounce

/-- A request to the backend that is answered later. -/
inductive Request where
  /-- A new instance, for which a placeholder stands. -/
  | create (key : String) (request : CreateRequest)
  /-- The end of an instance. -/
  | delete (name : String)
deriving DecidableEq, Repr

/-- What a step does to the outside. -/
inductive Effect where
  /-- A widget is made for an instance. -/
  | make (w : Widget)
  /-- A call to a widget. -/
  | call (c : Call)
  /-- An event is given to the channel. -/
  | emit (e : Outbound)
  /-- The user is told something. -/
  | tell (n : Notice)
  /-- A request is sent. -/
  | ask (r : Request)
  /-- The channel is closed. -/
  | closeChannel
deriving DecidableEq, Repr

namespace Effect

/-- The widgets that are made among effects. -/
def made (effects : List Effect) : List Widget :=
  effects.filterMap fun
    | .make w => some w
    | _ => none

/-- The calls to widgets among effects. -/
def calls (effects : List Effect) : List Call :=
  effects.filterMap fun
    | .call c => some c
    | _ => none

/-- The events given to the channel among effects. -/
def emitted (effects : List Effect) : List Outbound :=
  effects.filterMap fun
    | .emit e => some e
    | _ => none

/-- What the user is told among effects. -/
def notices (effects : List Effect) : List Notice :=
  effects.filterMap fun
    | .tell n => some n
    | _ => none

/-- The requests among effects. -/
def requests (effects : List Effect) : List Request :=
  effects.filterMap fun
    | .ask r => some r
    | _ => none

/-- How often the channel is closed. -/
def closings (effects : List Effect) : Nat := effects.count .closeChannel

end Effect

/-- What the client knows. -/
structure State where
  setup : Setup
  lifecycle : Lifecycle
  roster : Roster := {}
  viewport : Viewport := {}
  /-- What the widget of an instance would like as its geometry, if it is asked now. -/
  fits : String → Option Geometry := fun _ => none
  /-- The console on which the backend shows how the session is built. -/
  builder : Screen := {}
  /-- Whether the channel is up, as far as it has told. -/
  connected : Bool := false
  /-- Whether the channel was closed. -/
  closed : Bool := false
  /-- The countdown as it was last computed. -/
  countdown : String := Time.unknownCountdown
  countdownTimer : Option Timer := none
  /-- Milliseconds on the client's clock. -/
  now : Nat := 0
  /-- The serial number of the next widget, timer or request. -/
  nextSerial : Nat := 0

/-- A state that was reached, and what was done on the way. -/
structure Step where
  state : State
  effects : List Effect := []

namespace Step

/-- A further step. -/
def andThen (s : Step) (f : State → Step) : Step :=
  let t := f s.state
  { state := t.state, effects := s.effects ++ t.effects }

/-- A further step that may be refused, which changes nothing. -/
def attempt (s : Step) (f : State → Except Failure Step) : Except Failure Step :=
  match f s.state with
  | .ok t => .ok { state := t.state, effects := s.effects ++ t.effects }
  | .error e => .error e

/-- A further step if it is not refused. -/
def orStay (s : Step) (f : State → Except Failure Step) : Step :=
  match s.attempt f with
  | .ok t => t
  | .error _ => s

/-- Steps can be grouped freely. -/
theorem andThen_assoc (s : Step) (f g : State → Step) :
    (s.andThen f).andThen g = s.andThen fun t => (f t).andThen g := by
  simp [andThen, List.append_assoc]

end Step

namespace State

/-- The state of a session of which only the identifier is known. -/
def initial (id : String) (setup : Setup) : State := { setup, lifecycle := { id } }

/-- The period of the countdown, in milliseconds. -/
def countdownPeriod : Nat := 1000

/-- Whether the session has not ended. -/
def isAlive (s : State) : Bool := s.lifecycle.alive

/-- The time. -/
def time (s : State) : Instant := s.setup.started.addMillis s.now

/-- Tell the user something. -/
def tell (s : State) (n : Notice) : Step := { state := s, effects := [.tell n] }

/-- Give an event to the channel. -/
def emit (s : State) (e : Outbound) : Step := { state := s, effects := [.emit e] }

/-- A step that leaves another roster behind. -/
def withRoster (s : State) (roster : Roster) (calls : List Call) : Step :=
  { state := { s with roster }, effects := calls.map .call }

/-- Propose a geometry for the viewport. -/
def propose (s : State) (g : Geometry) : State :=
  { s with
    viewport := s.viewport.propose g s.now s.setup.resizeDebounce s.nextSerial
    nextSerial := s.nextSerial + 1 }

/-- Propose a geometry, if there is one to propose. -/
def propose? (s : State) (g : Option Geometry) : State :=
  match g with
  | some g => s.propose g
  | none => s

/-- Display an instance: it is selected, and its widget gets the keyboard. If it has no widget yet,
one is made and attached, its input is sent from now on, and the widget's geometry is proposed. -/
def display (s : State) (name : String) (i : Instance) : Step :=
  let roster := { s.roster with selected := some name }
  let widget : Widget := { name, serial := s.nextSerial }
  match i.screen.attach? widget s.viewport.current with
  | some (screen, calls) =>
    let shown := { i with screen }.startFlushTimer s.now s.setup.flushInterval (s.nextSerial + 1)
    { state :=
        { s with
          roster := roster.update name fun _ => shown
          nextSerial := s.nextSerial + 2 }.propose? (s.fits name)
      effects := .make widget :: (calls ++ screen.focus).map .call }
  | none => s.withRoster roster i.screen.focus

/-- Select an instance and show it. Refused without any effect once the session has ended, and if
there is no such instance. -/
def select (s : State) (name : String) : Except Failure Step :=
  if s.isAlive then
    match s.roster.get? name with
    | some i => .ok (s.display name i)
    | none => .error (.unknownInstance name)
  else .error .terminated

/-- The instance that has to be shown so that a confirmed instance is shown, if there is one: the
selected one if it is confirmed and has no widget, and if it is not confirmed the first that is. -/
def unshown? (s : State) : Option Instance :=
  let firstConfirmed := s.roster.instances.find? fun i => !i.provisional
  match s.roster.selected? with
  | some i =>
    if i.provisional then firstConfirmed
    else if i.screen.isAttached then none
    else some i
  | none => firstConfirmed

/-- Show a confirmed instance, if there is one and none is shown. -/
def ensureShown (s : State) : Except Failure Step :=
  match s.unshown? with
  | some i => s.select i.name
  | none => .ok { state := s }

/-- The geometry that the selected instance's widget would like. -/
def selectedFit (s : State) : Option Geometry :=
  match s.roster.selected? with
  | some i => i.screen.widget.bind fun w => s.fits w.name
  | none => none

/-- The backend has announced a geometry: every widget takes it, and draws what was kept. -/
def resizeAll (s : State) (g : Geometry) : Step :=
  let (roster, calls) := s.roster.resizeAll g
  let (builder, more) := s.builder.resize g
  { state := { s with viewport := s.viewport.announce g, roster, builder }
    effects := (calls ++ more).map .call }

/-- The name of the builder console's widget. -/
def builderName : String := "(builder)"

/-- Attach a widget to the builder console, if it has none. Tell whether it was attached; if not,
it is dropped. -/
def attachBuilder (s : State) : Bool × Step :=
  let widget : Widget := { name := builderName, serial := s.nextSerial }
  let s := { s with nextSerial := s.nextSerial + 1 }
  match s.builder.attach? widget s.viewport.current with
  | some (builder, calls) => (true, { state := { s with builder }, effects := calls.map .call })
  | none => (false, { state := s, effects := [.call ⟨widget, .drop⟩] })

/-- What is left of the session. -/
def remaining (s : State) : Option Span := s.lifecycle.remaining s.time

/-- Whether the session's end is known and lies ahead. -/
def isExpiring (s : State) : Bool :=
  match s.remaining with
  | some left => 0 < left
  | none => false

/-- Whether the session's end is known and has come. -/
def isExpired (s : State) : Bool :=
  match s.remaining with
  | some left => left ≤ 0
  | none => false

/-- Compute the countdown. It ticks no more once the end has come. -/
def refreshCountdown (s : State) : State :=
  { s with
    countdown := s.lifecycle.countdownText s.time
    countdownTimer := if s.isExpired then none else s.countdownTimer }

/-- Compute the countdown, and let it tick if the end lies ahead. -/
def startCountdown (s : State) : State :=
  let s := s.refreshCountdown
  if s.isExpiring && s.countdownTimer.isNone then
    { s with
      countdownTimer := some (Timer.every s.now countdownPeriod s.nextSerial)
      nextSerial := s.nextSerial + 1 }
  else s

/-- The session has ended: everything is released, and the user is told. Only the first time has
any effect. -/
def terminate (s : State) : Step :=
  if s.isAlive then
    let (builder, calls) := s.builder.release
    { state :=
        { s with
          lifecycle := s.lifecycle.finish.2
          roster := {}
          viewport := s.viewport.cancel
          builder
          closed := true
          countdownTimer := none }
      effects := (s.roster.releaseCalls ++ calls).map .call ++
        [.closeChannel, .tell .sessionEnded] }
  else { state := s }

/-- The channel went up or down. The user is told if that is news. -/
def setConnected (s : State) (connected : Bool) : Step :=
  if s.connected = connected then { state := s }
  else { s with connected }.tell (.connectionChanged connected)

end State
end TermSync.Session

import TermSync.Session.Work

/-!
# The session and its observers

For each kind of inbound event a built-in handler is registered first, which lets the event have its
effect on the state. Observers are registered after it: they are told the event then, and may change
the state further. They share something of their own. After the end of the session nobody is told
anything. Main law: `run_registered` (what the built-in handlers do about an event).
-/

namespace TermSync.Session

open Wire (EventKind Inbound)

/-- A handler of what the backend tells: it continues a step, and what the observers share. -/
abbrev Observer (ω : Type) : Type := Handler Unit (Step × ω)

namespace Engine

variable {ω : Type}

/-- The built-in handler: what an event does to the state is done. -/
def builtIn : Observer ω where
  memory := ()
  act _ c e :=
    let (t, outcome) := c.1.state.apply e
    ((), ({ state := t.state, effects := c.1.effects ++ t.effects }, c.2), outcome)

/-- The built-in handler is registered for every kind of event. -/
def registered : Dispatcher Unit (Step × ω) := Dispatcher.onAll {} builtIn

/-- One built-in handler does its work about an event, once. -/
theorem run_registered (e : Inbound) (t : Step) (shared : ω) :
    Dispatcher.run e (t, shared) registered.handlers =
      { handlers := registered.handlers
        context := (t.andThen fun s => (s.apply e).1, shared)
        outcomes := [(t.state.apply e).2] } :=
  Dispatcher.run_onAll builtIn e (t, shared)

end Engine

/-- A session and its observers, which share something of type `ω`. -/
structure Engine (ω : Type) where
  state : State
  shared : ω
  /-- Who is told: the built-in handlers first, and the observers after them. -/
  dispatcher : Dispatcher Unit (Step × ω) := Engine.registered

namespace Engine

variable {ω : Type}

/-- Whether the session has not ended. -/
def isAlive (g : Engine ω) : Bool := g.state.isAlive

/-- Let an observer follow a kind of events, after all others. -/
def observe (g : Engine ω) (kind : EventKind) (observer : Observer ω) : Engine ω :=
  { g with dispatcher := g.dispatcher.on kind observer }

/-- What a session and its observers have come to, and what was done on the way. -/
structure Progress (ω : Type) where
  engine : Engine ω
  effects : List Effect := []

/-- Go on with a step of the state. -/
def advance (g : Engine ω) (t : Step) : Progress ω :=
  { engine := { g with state := t.state }, effects := t.effects }

/-- Take an inbound event, and report how the built-in handler and the observers ended. -/
def receive (g : Engine ω) (e : Inbound) : Report × Progress ω :=
  if g.isAlive then
    let (report, dispatcher, t, shared) := g.dispatcher.dispatch ({ state := g.state }, g.shared) e
    (report, { engine := { state := t.state, shared, dispatcher }, effects := t.effects })
  else ({}, { engine := g })

/-- Take an event of this side. -/
def handle (g : Engine ω) (e : Event) : Progress ω := g.advance (g.state.handle e)

/-- Carry out a command, or tell the user why it is refused. -/
def obey (g : Engine ω) (key : String) (c : Command) : Progress ω :=
  match (Work.execute key c).on g.state with
  | (.ok (), t) => g.advance t
  | (.error e, t) => g.advance (t.andThen fun s => s.tell (.ofFailure c.action e))

/-- The calls made when the session is let go: the widgets that are left are dropped. -/
def releaseEffects (g : Engine ω) : List Effect :=
  (g.state.roster.releaseCalls ++ g.state.builder.release.2).map .call

end Engine
end TermSync.Session

import TermSync.Session.Engine

/-!
# The event loop

One loop handles everything that happens: what the backend tells comes through one queue, firings
of timers and answers to requests through another. Time passes between the handling of two events;
what falls due in the meantime queues up, in the order in which it falls due.

Nothing but the loop is at work while it handles events: timers fire and requests are sent only
when it has nothing to handle and waits. So what falls due at a moment may still be outstanding when
the loop goes on at that moment.

The backend that answers requests is a parameter: it says what the answer to a request will be and
how long it takes.
-/

namespace TermSync.Session

open Time (Timer)
open Wire (Inbound)

/-- A backend as the loop sees it: it answers a request with an event, some milliseconds after the
request is sent. -/
structure Backend (σ : Type) where
  memory : σ
  answer : σ → Request → σ × Nat × Event

/-- An event that falls due after a wait. -/
structure Firing where
  due : Nat
  /-- When the wait began. -/
  armed : Nat
  /-- The number of the timer or of the request. -/
  serial : Nat
  event : Event

/-- Whether one firing need not come after another. Of two with the same time, the one whose wait
began first comes first; of two waits that began at the same time, that of the older timer or
request. -/
def Firing.isBefore (a b : Firing) : Bool :=
  a.due < b.due || a.due == b.due &&
    (a.armed < b.armed || a.armed == b.armed && a.serial ≤ b.serial)

/-- A session with its queues. -/
structure Loop (σ ω : Type) where
  engine : Engine ω
  backend : Backend σ
  inbound : List Inbound := []
  events : List Event := []
  /-- Requests that were asked for and not sent yet, with their numbers: they are sent when the
  loop waits. -/
  waiting : List (Request × Nat) := []
  /-- Answers that are on their way. -/
  coming : List Firing := []

namespace Loop

variable {σ ω : Type}

/-- What the loop has come to, and what was done on the way. -/
structure Turn (σ ω : Type) where
  loop : Loop σ ω
  effects : List Effect := []

namespace Turn

/-- A further turn. -/
def andThen (t : Turn σ ω) (f : Loop σ ω → Turn σ ω) : Turn σ ω :=
  let u := f t.loop
  { loop := u.loop, effects := t.effects ++ u.effects }

end Turn

/-- Milliseconds on the clock. -/
def now (l : Loop σ ω) : Nat := l.engine.state.now

/-- Whether the session has not ended. -/
def isAlive (l : Loop σ ω) : Bool := l.engine.isAlive

/-- Go on with what the session has come to. Requests get their numbers, and are not sent yet. -/
def advance (l : Loop σ ω) (p : Engine.Progress ω) : Turn σ ω :=
  let s := p.engine.state
  let asked := Effect.requests p.effects
  { loop :=
      { l with
        engine := { p.engine with state := { s with nextSerial := s.nextSerial + asked.length } }
        waiting := l.waiting ++ asked.zipIdx s.nextSerial }
    effects := p.effects }

/-! ## Handling -/

/-- Handle the first inbound event, or the first other event if there is none. -/
def handleNext? (l : Loop σ ω) : Option (Turn σ ω) :=
  match l.inbound, l.events with
  | e :: rest, _ => some ({ l with inbound := rest }.advance (l.engine.receive e).2)
  | [], e :: rest => some ({ l with events := rest }.advance (l.engine.handle e))
  | [], [] => none

/-- The number of events in the queues. -/
def queued (l : Loop σ ω) : Nat := l.inbound.length + l.events.length

/-- Handle so many events, as long as there are any. -/
def handleMany : Nat → Loop σ ω → Turn σ ω
  | 0, l => { loop := l }
  | n + 1, l =>
    match l.handleNext? with
    | some t => t.andThen (handleMany n)
    | none => { loop := l }

/-- Handle all events in the queues. -/
def handleAll (l : Loop σ ω) : Turn σ ω := handleMany l.queued l

/-! ## Passing of time -/

/-- What a timer has to tell until some time. -/
def timerFirings (limit : Nat) (event : Event) : Option Timer → List Firing
  | none => []
  | some timer =>
    (timer.firings limit).map fun due =>
      { due, armed := due - timer.wait, serial := timer.serial, event }

/-- What all timers of a state have to tell until some time. -/
def stateFirings (limit : Nat) (s : State) : List Firing :=
  s.roster.entries.rows.flatMap (fun r => timerFirings limit (.flushTick r.1) r.2.flushTimer) ++
    timerFirings limit .resizeSettled s.viewport.debounce ++
    timerFirings limit .countdownTick s.countdownTimer

/-- All that falls due until some time, in order. -/
def firings (l : Loop σ ω) (limit : Nat) : List Firing :=
  (stateFirings limit l.engine.state ++ l.coming.filter fun f => f.due ≤ limit).mergeSort
    Firing.isBefore

/-- A timer after its firings until some time. -/
def moveTimer (limit : Nat) (timer : Option Timer) : Option Timer :=
  timer.map fun t => t.advance limit

/-- A state at a later time: its timers have fired. -/
def moveState (limit : Nat) (s : State) : State :=
  { s with
    now := limit
    roster := s.roster.moveTo limit
    viewport := { s.viewport with debounce := moveTimer limit s.viewport.debounce }
    countdownTimer := moveTimer limit s.countdownTimer }

/-- Send one request. Its answer is on its way from now on. -/
def send (l : Loop σ ω) (r : Request × Nat) : Loop σ ω :=
  let (memory, delay, event) := l.backend.answer l.backend.memory r.1
  { l with
    backend := { l.backend with memory }
    coming := l.coming ++ [{ due := l.now + delay, armed := l.now, serial := r.2, event }] }

/-- Send the requests that wait. -/
def sendWaiting (l : Loop σ ω) : Loop σ ω :=
  { l.waiting.foldl send l with waiting := [] }

/-- Let time pass until some moment. Nothing is handled; what falls due is queued. -/
def passUntil (l : Loop σ ω) (moment : Nat) : Loop σ ω :=
  { l with
    engine := { l.engine with state := moveState moment l.engine.state }
    events := l.events ++ (l.firings moment).map Firing.event
    coming := l.coming.filter fun f => moment < f.due }

/-- Send the requests that wait, and let time pass. -/
def pass (l : Loop σ ω) (ms : Nat) : Loop σ ω := l.sendWaiting.passUntil (l.now + ms)

/-- The moments at which something falls due next. -/
def dueTimes (l : Loop σ ω) : List Nat :=
  let s := l.engine.state
  let next (timer : Option Timer) : List Nat := (timer.bind Timer.due).toList
  s.roster.entries.values.flatMap (fun i => next i.flushTimer) ++ next s.viewport.debounce ++
    next s.countdownTimer ++ l.coming.map Firing.due

/-- Set the clock. What falls due by then is outstanding. -/
def setClock (l : Loop σ ω) (moment : Nat) : Loop σ ω :=
  { l with engine := { l.engine with state := { l.engine.state with now := moment } } }

/-- Handle one event: one that is queued, or the first that comes before so many milliseconds have
passed. Tell whether there was one. If there was none, what falls due at the end of this time is
outstanding; and if there was no time to wait, nothing has happened. -/
def handleWithin (l : Loop σ ω) (ms : Nat) : Bool × Turn σ ω :=
  match l.handleNext? with
  | some t => (true, t)
  | none =>
    if ms = 0 then (false, { loop := l })
    else
      let sent := l.sendWaiting
      let limit := l.now + ms
      match (sent.dueTimes.filter fun due => due < limit).min? with
      | none => (false, { loop := sent.setClock limit })
      | some due =>
        match (sent.passUntil due).handleNext? with
        | some t => (true, t)
        | none => (false, { loop := sent.setClock limit })

/-! ## A whole run -/

/-- Something that reaches a running loop from outside. -/
inductive Arrival where
  /-- A command. The key is for the placeholder, if the command needs one. -/
  | command (key : String) (c : Command)
  /-- An inbound event. -/
  | inbound (e : Inbound)

/-- Take what arrives. After the end of the session nothing is taken. -/
def take (l : Loop σ ω) (a : Arrival) : Turn σ ω :=
  match a with
  | .command key c => if l.isAlive then l.advance (l.engine.obey key c) else { loop := l }
  | .inbound e => { loop := { l with inbound := l.inbound ++ [e] } }

/-- Take all of what arrives, and handle what is queued. -/
def takeAll (l : Loop σ ω) (arrivals : List Arrival) : Turn σ ω :=
  let taken : Turn σ ω :=
    arrivals.foldl (fun (t : Turn σ ω) a => t.andThen fun l => l.take a) { loop := l }
  taken.andThen handleAll

/-- Run until the session ends, or until some moment. Arrivals come at their moments. Nothing is
queued at the beginning of a round; the round waits until something is, and handles it. -/
def runRounds (l : Loop σ ω) (arrivals : List (Nat × Arrival)) (stop : Nat) : Nat → Turn σ ω
  | 0 => { loop := l }
  | fuel + 1 =>
    if l.isAlive then
      let sent := l.sendWaiting.passUntil l.now
      let (here, later) := arrivals.partition fun a => a.1 ≤ l.now
      if here.isEmpty && sent.queued == 0 then
        if stop ≤ l.now then { loop := sent }
        else
          let moment := ((sent.dueTimes ++ later.map Prod.fst).min?.getD stop).min stop
          runRounds (sent.passUntil moment) later stop fuel
      else
        let t := sent.takeAll (here.map Prod.snd)
        let u := runRounds t.loop later stop fuel
        { loop := u.loop, effects := t.effects ++ u.effects }
    else { loop := l }

/-- Enough rounds: in each the time passes, or something is taken, or what was asked for or
proposed in the round before becomes an event. -/
def rounds (l : Loop σ ω) (arrivals : List (Nat × Arrival)) (stop : Nat) : Nat :=
  5 * (stop - l.now + arrivals.length + 2)

/-- Run until the session ends, or until some moment, beginning with what is queued already. In the
end the channel is closed and what is left is let go. -/
def run (l : Loop σ ω) (arrivals : List (Nat × Arrival)) (stop : Nat) : Turn σ ω :=
  let t := l.handleAll.andThen fun l => l.runRounds arrivals stop (l.rounds arrivals stop)
  { t with effects := t.effects ++ .closeChannel :: t.loop.engine.releaseEffects }

end Loop
end TermSync.Session

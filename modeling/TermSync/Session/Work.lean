import TermSync.Session.Local

/-!
# Work that may be refused

A command is carried out, and the session is loaded, on the state itself, one change after the
other. Where such work is refused it ends, and what was changed or done by then stays. Main law:
`go_bind` (work goes on from where it has come to, unless it was refused).
-/

namespace TermSync.Session

open Rest (SessionRecord)

/-- Work on a state, with effects on the outside. It may be refused at any point. -/
abbrev Work : Type → Type := ExceptT Failure (StateM Step)

namespace Work

variable {α β : Type}

/-- Go on with work from where a step has led: whether it is refused, and how far it comes. -/
def go (w : Work α) (t : Step) : Except Failure α × Step := w.run.run t

/-- Do work on a state. -/
def on (w : Work α) (s : State) : Except Failure α × Step := w.go { state := s }

/-- The state as it is now. -/
def state : Work State := do return (← get).state

/-- Go on with a step. -/
def step (f : State → Step) : Work Unit := modify fun t => t.andThen f

/-- Change the state. -/
def change (f : State → State) : Work Unit := step fun s => { state := f s }

/-- Go on only if a condition holds. -/
def require (b : Bool) (e : Failure) : Work Unit := unless b do throw e

/-- Go on only if there is something to go on with. -/
def need (a : Option α) (e : Failure) : Work α :=
  match a with
  | some a => pure a
  | none => throw e

/-! ## What is done -/

/-- Nothing is done once the session has ended. -/
def ensureAlive : Work Unit := do require (← state).isAlive .terminated

/-- Select an instance and show it. The selection moves before it is looked up what is shown. -/
def select (name : String) : Work Unit := do
  ensureAlive
  let roster ← need ((← state).roster.select? name) (.unknownInstance name)
  change fun s => { s with roster }
  let i ← need ((← state).roster.get? name) (.unknownInstance name)
  step fun s => s.display name i

/-- Carry out a command. -/
def execute (key : String) (c : Command) : Work Unit := do
  ensureAlive
  match c with
  | .create request =>
    change fun s => { s with roster := s.roster.insertPlaceholder key }
    step fun s => { state := s, effects := [.ask (.create key request)] }
  | .delete name =>
    require ((← state).roster.contains name) (.unknownInstance name)
    step fun s => { state := s, effects := [.ask (.delete name)] }
  | .select name => select name
  | .input name data =>
    let i ← need ((← state).roster.get? name) (.unknownInstance name)
    require i.screen.isAttached (.detached name)
    change fun s => s.update name fun i => i.type data
  | .resize g => change fun s => s.propose g
  | .fit => change fun s => s.propose? s.selectedFit
  | .close => step fun s => s.emit .sessionClose

/-- Show the first instance, if none is selected. -/
def showFirst : Work Unit := do
  let roster := (← state).roster
  match roster.selected, roster.names.head? with
  | none, some name => select name
  | _, _ => pure ()

/-- Take over what the backend tells about the session: first what it says about the session itself,
then its instances, one after the other. At last the countdown begins. -/
def load (r : SessionRecord) : Work Unit := do
  change fun s =>
    { s with
      lifecycle :=
        { s.lifecycle with
          createdAt := r.createdAt
          expiresAt := r.expiresAt
          ready := r.ready.getD true } }
  for entry in r.instances do
    change fun s => { s with roster := s.roster.upsert entry.2 }
  showFirst
  change State.startCountdown

/-- Load the session, given the backend's answer. -/
def bootstrap (answer : Except Failure SessionRecord) : Work Unit := do
  ensureAlive
  match answer with
  | .ok r => load r
  | .error e => throw e

/-! ## How far it comes -/

@[simp] theorem go_pure (a : α) (t : Step) : (pure a : Work α).go t = (.ok a, t) := rfl

@[simp] theorem go_state (t : Step) : state.go t = (.ok t.state, t) := rfl

@[simp] theorem go_step (f : State → Step) (t : Step) : (step f).go t = (.ok (), t.andThen f) := rfl

@[simp] theorem go_change (f : State → State) (t : Step) :
    (change f).go t = (.ok (), t.andThen fun s => { state := f s }) := rfl

@[simp] theorem go_require (b : Bool) (e : Failure) (t : Step) :
    (require b e).go t = if b then (.ok (), t) else (.error e, t) := by
  cases b <;> rfl

@[simp] theorem go_need (a : Option α) (e : Failure) (t : Step) :
    (need a e).go t = match a with
      | some a => (.ok a, t)
      | none => (.error e, t) := by
  cases a <;> rfl

/-- What follows is done only if it is come to. -/
theorem go_bind (w : Work α) (f : α → Work β) (t : Step) :
    (w >>= f).go t = match w.go t with
      | (.ok a, u) => (f a).go u
      | (.error e, u) => (.error e, u) := by
  simp only [go, ExceptT.run_bind, StateT.run_bind]
  rcases w.run.run t with ⟨r, u⟩
  cases r <;> rfl

theorem go_ensureAlive (t : Step) :
    ensureAlive.go t = if t.state.isAlive then (.ok (), t) else (.error .terminated, t) := by
  simp only [ensureAlive, go_bind, go_state, go_require]

end Work
end TermSync.Session

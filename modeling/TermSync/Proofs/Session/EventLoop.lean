import TermSync.Proofs.Session.Run
import TermSync.Proofs.Session.Work

/-!
# The event loop takes a session through a run

Commands and inbound events arrive at the event loop at any time, timers fire, requests are
answered, and observers may do to the session what its embedder can do. Whatever comes of it is a
run, so what holds after every run holds whenever the loop stops.

Main statements: `runs_receive` (a session and its observers), `runs_runRounds` (the loop, however
long it goes on) and `exists_run` (the loop as a whole, until what is left is let go).
-/

namespace TermSync.Session

open Wire (EventKind Inbound)

variable {σ ω : Type}

/-! ## Steps that are runs -/

/-- A step from a state is a run. -/
def State.Runs (s : State) (t : Step) : Prop := ∃ xs, t = s.run xs

namespace State.Runs

theorem refl (s : State) : s.Runs { state := s } := ⟨[], rfl⟩

theorem respond (s : State) (x : Stimulus) : s.Runs (s.respond x) := by
  refine ⟨[x], ?_⟩
  simp [run_cons, Step.andThen]

theorem trans {s : State} {t u : Step} (h : s.Runs t) (h' : t.state.Runs u) :
    s.Runs { state := u.state, effects := t.effects ++ u.effects } := by
  obtain ⟨xs, rfl⟩ := h
  obtain ⟨ys, rfl⟩ := h'
  refine ⟨xs ++ ys, ?_⟩
  rw [run_append, Step.andThen]

end State.Runs

/-! ## A session and its observers -/

/-- An observer does to the session what the session's embedder can do. -/
def Behaves (o : Observer ω) : Prop :=
  ∀ memory t shared e, ∃ xs,
    (o.act memory (t, shared) e).2.1.1 = t.andThen fun s => s.run xs

/-- Observers that behave go on with the step by a run, and behave afterwards. -/
private theorem dispatch_behaves (e : Inbound) {os : List (EventKind × Observer ω)}
    (h : ∀ o ∈ os, Behaves o.2) (t : Step) (shared : ω) :
    (∃ xs, (Dispatcher.run e (t, shared) os).context.1 = t.andThen fun s => s.run xs) ∧
      ∀ o ∈ (Dispatcher.run e (t, shared) os).handlers, Behaves o.2 := by
  induction os generalizing t shared with
  | nil => exact ⟨⟨[], by simp [Dispatcher.run, Step.andThen]⟩, h⟩
  | cons o os ih =>
    obtain ⟨kind, o⟩ := o
    have ho : Behaves o := h (kind, o) List.mem_cons_self
    have hos : ∀ p ∈ os, Behaves p.2 := fun p hp => h p (List.mem_cons_of_mem _ hp)
    by_cases hk : kind = e.kind
    · obtain ⟨xs, hxs⟩ := ho o.memory t shared e
      obtain ⟨⟨ys, hys⟩, hrest⟩ := ih hos (o.act o.memory (t, shared) e).2.1.1
        (o.act o.memory (t, shared) e).2.1.2
      simp only [Dispatcher.run, hk, if_true]
      constructor
      · refine ⟨xs ++ ys, hys.trans ?_⟩
        rw [hxs, Step.andThen_assoc]
        simp only [State.run_append]
      · exact List.forall_mem_cons.mpr ⟨ho, hrest⟩
    · obtain ⟨hrun, hrest⟩ := ih hos t shared
      simp only [Dispatcher.run, hk, if_false]
      exact ⟨hrun, List.forall_mem_cons.mpr ⟨ho, hrest⟩⟩

namespace Engine

/-- After the built-in handlers there are none but observers that do to the session what its
embedder can do. -/
def Behaves (g : Engine ω) : Prop :=
  ∃ observers, g.dispatcher.handlers = registered.handlers ++ observers ∧
    ∀ o ∈ observers, Session.Behaves o.2

/-- What a session and its observers have come to is a run, and the observers behave. -/
structure Runs (g : Engine ω) (p : Progress ω) : Prop where
  step : g.state.Runs { state := p.engine.state, effects := p.effects }
  behaves : p.engine.Behaves

/-- An inbound event, and what the observers do about it. -/
theorem runs_receive {g : Engine ω} (h : g.Behaves) (e : Inbound) : g.Runs (g.receive e).2 := by
  unfold receive
  split
  · next ha =>
    obtain ⟨observers, hg, ho⟩ := h
    have hown := State.Runs.respond g.state (.inbound e)
    rw [State.respond, if_pos (show g.state.isAlive = true from ha)] at hown
    obtain ⟨⟨xs, hxs⟩, hrest⟩ := dispatch_behaves e ho (g.state.apply e).1 g.shared
    have hdispatch := Dispatcher.run_append e registered.handlers observers
      (({ state := g.state }, g.shared) : Step × ω)
    rw [run_registered] at hdispatch
    simp only [Dispatcher.dispatch, hg, hdispatch]
    constructor
    · have hrun := hown.trans ⟨xs, rfl⟩
      rw [Step.andThen] at hxs
      rw [← hxs] at hrun
      exact hrun
    · exact ⟨_, rfl, hrest⟩
  · exact ⟨State.Runs.refl g.state, h⟩

/-- An event of this side. -/
theorem runs_handle {g : Engine ω} (h : g.Behaves) (e : Event) : g.Runs (g.handle e) :=
  ⟨State.Runs.respond g.state (.event e), h⟩

/-- A command. If it is refused, the user is told. -/
theorem runs_obey {g : Engine ω} (h : g.Behaves) (key : String) (c : Command) :
    g.Runs (g.obey key c) := by
  unfold obey
  rw [Work.on_execute]
  cases hc : g.state.execute key c with
  | ok t =>
    have hrun := State.Runs.respond g.state (.command key c)
    simp only [State.respond, Step.orStay, Step.attempt, hc] at hrun
    exact ⟨hrun, h⟩
  | error e => exact ⟨State.Runs.respond g.state (.tell (.ofFailure c.action e)), h⟩

end Engine

/-! ## The loop -/

namespace Loop

/-- What the loop has done with the session is a run, and the observers behave. -/
structure Runs (l : Loop σ ω) (t : Turn σ ω) : Prop where
  step : l.engine.state.Runs { state := t.loop.engine.state, effects := t.effects }
  behaves : t.loop.engine.Behaves

/-- Nothing is done, with the same session. -/
theorem Runs.of_engine {l m : Loop σ ω} (h : l.engine.Behaves) (hm : m.engine = l.engine) :
    l.Runs { loop := m } := by
  constructor
  · rw [hm]
    exact State.Runs.refl l.engine.state
  · rw [hm]
    exact h

theorem Runs.trans {l : Loop σ ω} {t u : Turn σ ω} (h : l.Runs t) (h' : t.loop.Runs u) :
    l.Runs { loop := u.loop, effects := t.effects ++ u.effects } :=
  ⟨h.step.trans h'.step, h'.behaves⟩

/-- The requests that were asked for get their numbers. -/
theorem runs_advance {l m : Loop σ ω} {p : Engine.Progress ω} (h : l.engine.Runs p) :
    l.Runs (m.advance p) := by
  have hnumber := State.Runs.respond p.engine.state (.number (Effect.requests p.effects).length)
  have hrun := h.step.trans hnumber
  rw [State.respond, List.append_nil] at hrun
  exact ⟨hrun, h.behaves⟩

theorem runs_handleNext? {l : Loop σ ω} (h : l.engine.Behaves) {t : Turn σ ω}
    (ht : l.handleNext? = some t) : l.Runs t := by
  unfold handleNext? at ht
  split at ht
  · next e rest _ =>
    cases ht
    exact runs_advance (Engine.runs_receive h e)
  · next e rest _ _ =>
    cases ht
    exact runs_advance (Engine.runs_handle h e)
  · cases ht

theorem runs_handleMany (n : Nat) {l : Loop σ ω} (h : l.engine.Behaves) :
    l.Runs (handleMany n l) := by
  induction n generalizing l with
  | zero => exact .of_engine h rfl
  | succ n ih =>
    rw [handleMany]
    cases hn : l.handleNext? with
    | none => exact .of_engine h rfl
    | some t =>
      have ht := runs_handleNext? h hn
      exact ht.trans (ih ht.behaves)

/-- To send requests is nothing to the session. -/
theorem engine_sendWaiting (l : Loop σ ω) : l.sendWaiting.engine = l.engine := by
  have hfold (rs : List (Request × Nat)) (l : Loop σ ω) :
      (rs.foldl send l).engine = l.engine := by
    induction rs generalizing l with
    | nil => rfl
    | cons r rs ih => exact ih (l.send r)
  exact hfold l.waiting l

theorem runs_passUntil {l : Loop σ ω} (h : l.engine.Behaves) (moment : Nat) :
    l.Runs { loop := l.passUntil moment } :=
  ⟨State.Runs.respond l.engine.state (.pass moment), h⟩

theorem runs_setClock {l : Loop σ ω} (h : l.engine.Behaves) (moment : Nat) :
    l.Runs { loop := l.setClock moment } :=
  ⟨State.Runs.respond l.engine.state (.setClock moment), h⟩

/-- One event, or none within some time. -/
theorem runs_handleWithin {l : Loop σ ω} (h : l.engine.Behaves) (ms : Nat) :
    l.Runs (l.handleWithin ms).2 := by
  have hsent : l.Runs { loop := l.sendWaiting } := .of_engine h (engine_sendWaiting l)
  have hclock : l.Runs { loop := l.sendWaiting.setClock (l.now + ms) } :=
    hsent.trans (runs_setClock hsent.behaves (l.now + ms))
  unfold handleWithin
  cases hn : l.handleNext? with
  | some t => exact runs_handleNext? h hn
  | none =>
    dsimp only
    split
    · exact .of_engine h rfl
    · split
      · exact hclock
      · next due _ =>
        split
        · next t ht =>
          have hpass := runs_passUntil hsent.behaves due
          have hnext := runs_handleNext? hpass.behaves ht
          exact hsent.trans (hpass.trans hnext)
        · exact hclock

theorem runs_take {l : Loop σ ω} (h : l.engine.Behaves) (a : Arrival) : l.Runs (l.take a) := by
  cases a with
  | command key c =>
    rw [take]
    split
    · exact runs_advance (Engine.runs_obey h key c)
    · exact .of_engine h rfl
  | inbound e => exact .of_engine h rfl

theorem runs_takeAll {l : Loop σ ω} (h : l.engine.Behaves) (arrivals : List Arrival) :
    l.Runs (l.takeAll arrivals) := by
  have htaken (as : List Arrival) {t : Turn σ ω} (ht : l.Runs t) :
      l.Runs (as.foldl (fun (t : Turn σ ω) a => t.andThen fun l => l.take a) t) := by
    induction as generalizing t with
    | nil => exact ht
    | cons a as ih => exact ih (ht.trans (runs_take ht.behaves a))
  have ht := htaken arrivals (.of_engine h rfl)
  exact ht.trans (runs_handleMany _ ht.behaves)

/-- However long the loop goes on. -/
theorem runs_runRounds {l : Loop σ ω} (h : l.engine.Behaves) (arrivals : List (Nat × Arrival))
    (stop fuel : Nat) : l.Runs (l.runRounds arrivals stop fuel) := by
  induction fuel generalizing l arrivals with
  | zero => exact .of_engine h rfl
  | succ fuel ih =>
    have hwait : l.Runs { loop := l.sendWaiting.passUntil l.now } := by
      have hsent : l.Runs { loop := l.sendWaiting } := .of_engine h (engine_sendWaiting l)
      exact hsent.trans (runs_passUntil hsent.behaves l.now)
    rw [runRounds]
    split
    · dsimp only
      split
      · split
        · exact hwait
        · -- There is nothing to handle, so time passes until there is.
          have hpass (moment : Nat) := hwait.trans (runs_passUntil hwait.behaves moment)
          exact (hpass _).trans (ih (hpass _).behaves _)
      · have ht (here : List Arrival) := hwait.trans (runs_takeAll hwait.behaves here)
        exact (ht _).trans (ih (ht _).behaves _)
    · exact .of_engine h rfl

/-- The loop takes the session through a run, and lets go what is left. -/
theorem exists_run {l : Loop σ ω} (h : l.engine.Behaves) (arrivals : List (Nat × Arrival))
    (stop : Nat) :
    ∃ xs, (l.run arrivals stop).loop.engine.state = (l.engine.state.run xs).state ∧
      (l.run arrivals stop).effects =
        (l.engine.state.run xs).effects ++
          .closeChannel :: (l.run arrivals stop).loop.engine.releaseEffects := by
  have hall := runs_handleMany l.queued h
  have hrun := hall.trans
    (runs_runRounds hall.behaves arrivals stop ((handleMany l.queued l).loop.rounds arrivals stop))
  obtain ⟨xs, hxs⟩ := hrun.step
  refine ⟨xs, congrArg Step.state hxs, ?_⟩
  rw [← congrArg Step.effects hxs]
  rfl

end Loop
end TermSync.Session

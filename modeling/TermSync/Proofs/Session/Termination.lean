import TermSync.Proofs.Session.Screens

/-!
# The end of a session

The backend ends a session once. Every widget is dropped, every timer is cancelled, the channel is
closed and the user is told; nothing is left that could fire. Whatever comes afterwards, late
firings and answers included, changes nothing and has no effect, and is refused where it can be.

Main statements: `Ended.respond` (one stimulus after the end), `Ended.run` (any number of them),
`mem_releaseCalls` (what is dropped) and `sessionEnd_final`.
-/

namespace TermSync.Session

open Roster (Instance)
open Terminal (Call Screen Widget)

namespace Stimulus

/-- Whether a stimulus reaches the session in the usual way. The others are done to its parts
directly: to the builder console, to the notices, to the numbers, and to what widgets would like. -/
def isUsual : Stimulus → Bool
  | .attachBuilder => false
  | .tell _ => false
  | .number _ => false
  | .refit _ => false
  | _ => true

/-- What the clock shows after a stimulus. -/
def clock (now : Nat) : Stimulus → Nat
  | .pass moment => moment
  | .setClock moment => moment
  | _ => now

end Stimulus

namespace State

/-! ## After the end -/

/-- The session has ended, and nothing is left of it that could do anything. -/
structure Ended (s : State) : Prop where
  dead : s.isAlive = false
  /-- There is no instance, no host name in the index, and no selection. -/
  roster : s.roster = {}
  builder : s.builder = {}
  proposal : s.viewport.pending = none
  debounce : s.viewport.debounce = none
  countdownTimer : s.countdownTimer = none
  closed : s.closed = true

namespace Ended

variable {s : State}

/-- Time changes nothing about the end. -/
theorem withNow (h : s.Ended) (now : Nat) : Ended { s with now } :=
  ⟨h.dead, h.roster, h.builder, h.proposal, h.debounce, h.countdownTimer, h.closed⟩

theorem stateFirings (h : s.Ended) (limit : Nat) : Loop.stateFirings limit s = [] := by
  simp [Loop.stateFirings, h.roster, h.debounce, h.countdownTimer, Loop.timerFirings]

theorem execute (h : s.Ended) (key : String) (c : Command) :
    s.execute key c = .error .terminated := by
  simp [State.execute, h.dead]

theorem bootstrap (h : s.Ended) (answer : Except Failure Rest.SessionRecord) :
    s.bootstrap answer = .error .terminated := by
  simp [State.bootstrap, h.dead]

private theorem settle (h : s.Ended) : s.settle = { state := s } := by
  have hv : s.viewport = { s.viewport with pending := none, debounce := none } := by
    rw [← h.proposal, ← h.debounce]
  simp only [State.settle, Viewport.settle, h.proposal]
  rw [← hv]

private theorem moveState (h : s.Ended) (moment : Nat) :
    Loop.moveState moment s = { s with now := moment } := by
  have hv : s.viewport = { s.viewport with debounce := none } := by rw [← h.debounce]
  simp only [Loop.moveState, h.roster, h.debounce, h.countdownTimer, Loop.moveTimer,
    Option.map_none]
  rw [← hv]
  rfl

/-- Whatever an event of this side has to tell, it comes too late. -/
private theorem handle (h : s.Ended) (e : Event) : s.handle e = { state := s } := by
  cases e with
  | flushTick name => exact flush_eq_of_none (by rw [h.roster]; rfl)
  | resizeSettled => exact h.settle
  | countdownTick => simp [State.handle, h.dead]
  | created key answer => simp [State.handle, finishCreate, h.dead]
  | deleted name answer => simp [State.handle, finishDelete, h.dead]

/-- What comes after the end has no effect, and nothing but the clock moves. -/
theorem respond (h : s.Ended) {x : Stimulus} (hx : x.isUsual = true) :
    s.respond x = { state := { s with now := x.clock s.now } } := by
  cases x with
  | bootstrap answer => simp [State.respond, Step.orStay, Step.attempt, h.bootstrap, Stimulus.clock]
  | command key c => simp [State.respond, Step.orStay, Step.attempt, h.execute, Stimulus.clock]
  | inbound e => simp [State.respond, h.dead, Stimulus.clock]
  | event e => exact h.handle e
  | select name =>
    simp [State.respond, Step.orStay, Step.attempt, State.select, h.dead, Stimulus.clock]
  | pass moment => rw [State.respond, h.moveState, Stimulus.clock]
  | setClock moment => rfl
  | _ => cases hx

/-- So it is however much comes. -/
theorem run (h : s.Ended) {xs : List Stimulus} (hx : ∀ x ∈ xs, x.isUsual = true) :
    s.run xs = { state := { s with now := xs.foldl Stimulus.clock s.now } } := by
  induction xs generalizing s with
  | nil => rfl
  | cons x xs ih =>
    have hfirst := h.respond (hx x List.mem_cons_self)
    have hrest := ih (h.withNow (x.clock s.now)) fun y hy => hx y (List.mem_cons_of_mem x hy)
    rw [run_cons, hfirst]
    simp only [Step.andThen, hrest]
    rfl

end Ended

/-! ## The end -/

/-- Whether a widget is attached, to an instance's screen or to the builder console. -/
def Attached (s : State) (w : Widget) : Prop :=
  (∃ name, (s.screen name).widget = some w) ∨ s.builder.widget = some w

/-- The effects of the end of a session: each widget that is attached is dropped once, and nothing
else is done to any widget; the channel is closed, the user is told, and nothing is sent. -/
structure Releases (s : State) (effects : List Effect) : Prop where
  only : ∀ c ∈ Effect.calls effects, c.action = .drop
  once : (Effect.calls effects).Nodup
  all : ∀ w, ⟨w, .drop⟩ ∈ Effect.calls effects ↔ s.Attached w
  closings : Effect.closings effects = 1
  notices : Effect.notices effects = [.sessionEnded]
  emitted : Effect.emitted effects = []
  requests : Effect.requests effects = []

/-- What comes after the end of the session in the usual way changes nothing but the clock, has no
effect, and is refused where it can be. -/
structure Inert (s : State) : Prop where
  run : ∀ xs : List Stimulus, (∀ x ∈ xs, x.isUsual = true) →
    s.run xs = { state := { s with now := xs.foldl Stimulus.clock s.now } }
  execute : ∀ xs : List Stimulus, (∀ x ∈ xs, x.isUsual = true) → ∀ key c,
    (s.run xs).state.execute key c = .error .terminated
  bootstrap : ∀ xs : List Stimulus, (∀ x ∈ xs, x.isUsual = true) → ∀ answer,
    (s.run xs).state.bootstrap answer = .error .terminated
  /-- Whatever observers there are, they are not told. -/
  untold : ∀ (ω : Type) (g : Engine ω), g.state = s → ∀ e, g.receive e = ({}, { engine := g })
  /-- No timer has anything to tell. -/
  fires : ∀ limit, Loop.stateFirings limit s = []

theorem Ended.inert {s : State} (h : s.Ended) : s.Inert where
  run _ hx := h.run hx
  execute xs hx key c := by
    rw [h.run hx]
    exact (h.withNow _).execute key c
  bootstrap xs hx answer := by
    rw [h.run hx]
    exact (h.withNow _).bootstrap answer
  untold _ g hg e := by
    subst hg
    simp [Engine.receive, Engine.isAlive, h.dead]
  fires := h.stateFirings

/-- What is dropped with the instances are the widgets of their screens. -/
theorem mem_releaseCalls {s : State} {c : Call} :
    c ∈ s.roster.releaseCalls ↔
      c.action = .drop ∧ ∃ name, (s.screen name).widget = some c.widget := by
  simp only [Roster.releaseCalls, List.mem_flatMap, Roster.Table.mem_values_iff]
  constructor
  · rintro ⟨i, ⟨name, hi⟩, hc⟩
    obtain ⟨hdrop, hw⟩ := Screen.mem_release.mp hc
    exact ⟨hdrop, name, by rw [screen_of_get? hi, hw]⟩
  · rintro ⟨hdrop, name, hw⟩
    obtain ⟨i, hi, hv⟩ := exists_of_screen hw
    exact ⟨i, ⟨name, hi⟩, Screen.mem_release.mpr ⟨hdrop, hv⟩⟩

/-- Widgets that go by the names under which their instances are listed are dropped in the order of
the list. -/
private theorem releaseNames_sublist (rows : List (String × Instance))
    (hr : ∀ r ∈ rows, ∀ w, r.2.screen.widget = some w → w.name = r.1) :
    ((rows.flatMap fun r => r.2.release.2).map fun c => c.widget.name).Sublist
      (rows.map Prod.fst) := by
  induction rows with
  | nil => exact List.Sublist.slnil
  | cons r rows ih =>
    have hrest := ih fun q hq => hr q (List.mem_cons_of_mem r hq)
    rw [List.flatMap_cons, Instance.release, Screen.release]
    cases hw : r.2.screen.widget with
    | none => exact hrest.cons r.1
    | some w =>
      rw [List.map_cons, ← hr r List.mem_cons_self w hw]
      exact hrest.cons_cons w.name

/-- Every instance has its own widget, so none is dropped twice. -/
theorem nodup_releaseCalls {s : State} (h : s.Coherent) : s.roster.releaseCalls.Nodup := by
  have hrows : ∀ r ∈ s.roster.entries.rows, ∀ w, r.2.screen.widget = some w → w.name = r.1 :=
    fun r hr w hw =>
      (h.attached r.1 r.2 w ((Roster.Table.mem_rows_iff s.roster.entries r.1 r.2).mp hr) hw).1
  have hsub := releaseNames_sublist s.roster.entries.rows hrows
  rw [Roster.releaseCalls, Roster.Table.values, List.flatMap_map]
  exact (hsub.nodup s.roster.entries.nodup).of_map _

theorem releases_terminate {s : State} (h : s.Coherent) (ha : s.isAlive = true) :
    s.Releases s.terminate.effects := by
  have he : s.terminate.effects =
      (s.roster.releaseCalls ++ s.builder.release.2).map .call ++
        [.closeChannel, .tell .sessionEnded] := by
    rw [terminate, if_pos ha]
  have hcalls : Effect.calls s.terminate.effects =
      s.roster.releaseCalls ++ s.builder.release.2 := by
    rw [he, Effect.calls_append, Effect.calls_map_call]
    exact List.append_nil _
  constructor
  · intro c hc
    rw [hcalls, List.mem_append, mem_releaseCalls, Screen.mem_release] at hc
    exact hc.elim And.left And.left
  · rw [hcalls, List.nodup_append]
    refine ⟨nodup_releaseCalls h, ?_, ?_⟩
    · rw [Screen.release]
      cases s.builder.widget <;> simp
    · rintro c hc d hd rfl
      obtain ⟨-, name, hw⟩ := mem_releaseCalls.mp hc
      exact h.screen_ne (t := s) (.inl (Screen.mem_release.mp hd).2) hw
  · intro w
    rw [hcalls, List.mem_append, mem_releaseCalls, Screen.mem_release]
    simp [Attached]
  · have hnone (cs : List Call) : (cs.map Effect.call).count .closeChannel = 0 :=
      List.count_eq_zero.mpr (by simp)
    rw [he, Effect.closings, List.count_append, hnone]
    rfl
  · rw [he]
    simp [Effect.notices]
  · rw [he, Effect.emitted_append, Effect.emitted_map_call]
    rfl
  · rw [he]
    simp [Effect.requests]

/-- The end of a session is final and total: nothing is left of it, all that it held is released
once and the user is told, and nothing that comes later changes anything or has any effect. -/
theorem sessionEnd_final (id : String) (setup : Setup) (xs : List Stimulus)
    (ha : ((initial id setup).run xs).state.isAlive = true) :
    let s := ((initial id setup).run xs).state
    let t := s.respond (.inbound .sessionEnd)
    t.state.Ended ∧ s.Releases t.effects ∧ t.state.Inert := by
  intro s t
  have ht : t = s.terminate := by
    show s.respond (.inbound .sessionEnd) = s.terminate
    rw [respond, if_pos ha]
    rfl
  have hended : t.state.Ended := by
    rw [ht, terminate, if_pos ha]
    exact ⟨rfl, rfl, rfl, rfl, rfl, rfl, rfl⟩
  exact ⟨hended, ht ▸ releases_terminate (coherent_run id setup xs) ha, hended.inert⟩

/-- The end of a session in which an instance and the builder console are shown, input waits to be
sent, and two requests are not answered. -/
theorem sessionEnd_with_requests :
    let xs : List Stimulus :=
      [.bootstrap (.ok { instances := [("a", .named "a"), ("b", .named "b")] }), .attachBuilder,
        .command "p" (.create {}), .command "" (.delete "b"), .command "" (.input "a" [104, 105]),
        .command "" (.resize { cols := 80, rows := 24 })]
    let s := ((initial "s1" {}).run xs).state
    let t := s.respond (.inbound .sessionEnd)
    s.isAlive = true ∧ t.state.Ended ∧ s.Releases t.effects ∧ t.state.Inert :=
  ⟨rfl, sessionEnd_final "s1" {} _ rfl⟩

end State
end TermSync.Session

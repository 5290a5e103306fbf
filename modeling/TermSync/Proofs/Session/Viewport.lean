import TermSync.Proofs.Session.Attachment

/-!
# What becomes of the viewport

Few acts touch the viewport: a geometry is announced or proposed, a proposal is settled or
forgotten, and with the time its timer fires. `Shift` says which act does what; the viewport's
properties are proved by its cases.

Main statements: `shift_perform` (what each act does), `reason_of_perform` (which acts have which
effects), `current_run` (the geometry announced is the last one pushed).
-/

namespace TermSync.Session

open Roster (Instance)
open Terminal (Geometry Screen)

namespace Act

/-- The geometry that the backend announces with an act. -/
def pushes : Act → List Geometry
  | .resizeAll g => [g]
  | _ => []

/-- The stimuli about which some acts are done. -/
def Cause (x : Stimulus) : Act → Prop
  | .resizeAll g => x = .inbound (.viewportResize g)
  | .flush name => x = .event (.flushTick name)
  | .moveTo moment => x = .pass moment
  | .aside .settle => x = .event .resizeSettled
  | .aside (.setClock moment) => x = .setClock moment
  | .aside .attachBuilder => x = .attachBuilder
  | .aside (.propose _) =>
    (∃ key g, x = .command key (.resize g)) ∨ ∃ key, x = .command key .fit
  | _ => True

/-- Whether an act touches the viewport, but for a proposal and the end of the session. -/
def shifts : Act → Bool
  | .resizeAll _ | .moveTo _ | .aside .settle => true
  | _ => false

end Act

/-- What an act has to be if it has some effect. Few effects tell of what they come. -/
def Effect.Reason (a : Act) : Effect → Prop
  | .make w => a = .display w.name
  | .emit (.viewportResize _) => a = .aside .settle
  | .closeChannel => a = .terminate
  | _ => True

namespace State

/-- The geometry that an act proposes: one that is asked for, or the one that the widget of an
instance would like that is displayed for the first time. -/
def proposal? (s : State) : Act → Option Geometry
  | .aside (.propose g) => some g
  | .display name =>
    if s.isAlive && (s.roster.get? name).any fun i => !i.screen.isAttached then s.fits name
    else none
  | _ => none

/-- What an act does to the viewport. -/
inductive Shift (s : State) (a : Act) (t : State) : Prop where
  | proposed (g : Geometry) (serial : Nat) (hp : s.proposal? a = some g)
      (hs : s.nextSerial ≤ serial ∧ serial < t.nextSerial)
      (hv : t.viewport = s.viewport.propose g s.now s.setup.resizeDebounce serial)
  | announced (g : Geometry) (ha : a = .resizeAll g) (hv : t.viewport = s.viewport.announce g)
  | cancelled (ha : a = .terminate) (hd : t.isAlive = false)
      (hv : t.viewport = s.viewport.cancel)
  | moved (moment : Nat) (ha : a = .moveTo moment)
      (hv : t.viewport =
        { s.viewport with debounce := Loop.moveTimer moment s.viewport.debounce })
  | settled (ha : a = .aside .settle) (hv : t.viewport = s.viewport.settle.2)
  | kept (hp : s.proposal? a = none) (hs : a.shifts = false) (hv : t.viewport = s.viewport)

private theorem shift_display (s : State) (name : String) :
    s.Shift (.display name) (s.perform (.display name)).state := by
  rcases display_cases s name with ⟨i, w, ha, hi, hw, hd⟩ | ⟨i, _, _, ha, hi, hw, -⟩ | ⟨hno, hd⟩
  · have hp : s.proposal? (.display name) = none := by
      simp [proposal?, ha, hi, Screen.isAttached, hw]
    rw [hd]
    exact .kept hp rfl rfl
  · have hp : s.proposal? (.display name) = s.fits name := by
      simp [proposal?, ha, hi, Screen.isAttached, hw]
    rw [perform_display ha hi, display_of_detached s name hw]
    cases hf : s.fits name with
    | none => exact .kept (hp.trans hf) rfl rfl
    | some g =>
      refine .proposed g (s.nextSerial + 2) (hp.trans hf) ⟨?_, ?_⟩ rfl
      · exact Nat.le_add_right s.nextSerial 2
      · exact Nat.lt_succ_self (s.nextSerial + 2)
  · have hp : s.proposal? (.display name) = none := by
      rcases hno with hno | hno <;> simp [proposal?, hno]
    rw [hd]
    exact .kept hp rfl rfl

private theorem shift_aside (s : State) (a : Aside) :
    s.Shift (.aside a) (s.performAside a).state := by
  cases a with
  | propose g =>
    exact .proposed g s.nextSerial rfl ⟨Nat.le_refl _, Nat.lt_succ_self _⟩ rfl
  | settle =>
    rw [performAside, settle_eq]
    exact .settled rfl rfl
  | startCountdown =>
    obtain ⟨_, _, _, he⟩ := s.startCountdown_eq
    rw [performAside, he]
    exact .kept rfl rfl rfl
  | setConnected connected =>
    obtain ⟨_, he⟩ := s.setConnected_eq connected
    rw [performAside, he]
    exact .kept rfl rfl rfl
  | attachBuilder =>
    rcases s.attachBuilder_cases with ⟨-, he⟩ | ⟨-, he⟩ <;>
      rw [performAside, he] <;> exact .kept rfl rfl rfl
  | _ => exact .kept rfl rfl rfl

/-- What each act does to the viewport. -/
theorem shift_perform (s : State) (a : Act) : s.Shift a (s.perform a).state := by
  cases a with
  | display name => exact shift_display s name
  | aside a => exact shift_aside s a
  | resizeAll g => exact .announced g rfl rfl
  | moveTo moment => exact .moved moment rfl rfl
  | forget name =>
    obtain ⟨_, he⟩ := s.forget_eq name
    rw [perform, he]
    exact .kept rfl rfl rfl
  | flush name =>
    refine .kept rfl rfl ?_
    cases hi : s.roster.get? name with
    | none => rw [perform, flush_eq_of_none hi]
    | some i =>
      rw [perform, flush_eq hi]
      rfl
  | terminate =>
    rw [perform, terminate]
    split
    · exact .cancelled rfl rfl rfl
    · exact .kept rfl rfl rfl
  | _ => exact .kept rfl rfl rfl

/-- Where an act leaves the clock. -/
def clockAfter (s : State) : Act → Nat
  | .moveTo moment => moment
  | .aside (.setClock moment) => moment
  | _ => s.now

/-- What the widgets would like after an act. -/
def fitsAfter (s : State) : Act → String → Option Geometry
  | .aside (.refit fits) => fits
  | _ => s.fits

/-- What a session works with never changes, the clock only when time passes, and what the widgets
would like only when the display changes. -/
theorem frame_perform (s : State) (a : Act) :
    (s.perform a).state.setup = s.setup ∧ (s.perform a).state.now = s.clockAfter a ∧
      (s.perform a).state.fits = s.fitsAfter a := by
  cases a with
  | display name =>
    rcases display_cases s name with ⟨_, _, -, -, -, hd⟩ | ⟨_, _, _, -, -, -, hd⟩ | ⟨-, hd⟩ <;>
      rw [hd] <;> exact ⟨rfl, rfl, rfl⟩
  | forget name =>
    obtain ⟨_, he⟩ := s.forget_eq name
    rw [perform, he]
    exact ⟨rfl, rfl, rfl⟩
  | flush name =>
    cases hi : s.roster.get? name with
    | none =>
      rw [perform, flush_eq_of_none hi]
      exact ⟨rfl, rfl, rfl⟩
    | some i =>
      rw [perform, flush_eq hi]
      exact ⟨rfl, rfl, rfl⟩
  | terminate =>
    rw [perform, terminate]
    split <;> exact ⟨rfl, rfl, rfl⟩
  | aside a =>
    cases a with
    | settle =>
      rw [perform, performAside, settle_eq]
      exact ⟨rfl, rfl, rfl⟩
    | startCountdown =>
      obtain ⟨_, _, _, he⟩ := s.startCountdown_eq
      rw [perform, performAside, he]
      exact ⟨rfl, rfl, rfl⟩
    | setConnected connected =>
      obtain ⟨_, he⟩ := s.setConnected_eq connected
      rw [perform, performAside, he]
      exact ⟨rfl, rfl, rfl⟩
    | attachBuilder =>
      rcases s.attachBuilder_cases with ⟨-, he⟩ | ⟨-, he⟩ <;>
        rw [perform, performAside, he] <;> exact ⟨rfl, rfl, rfl⟩
    | _ => exact ⟨rfl, rfl, rfl⟩
  | _ => exact ⟨rfl, rfl, rfl⟩

/-! ## Causes and reasons -/

private theorem cause_loadActs {s : State} {x : Stimulus} {r : Rest.SessionRecord} {a : Act}
    (ha : a ∈ s.loadActs r) : a.Cause x := by
  simp only [loadActs, List.cons_append, List.mem_cons, List.mem_append, List.mem_map,
    List.not_mem_nil, or_false] at ha
  rcases ha with rfl | ⟨entry, -, rfl⟩ | ha | rfl
  · trivial
  · trivial
  · split at ha
    · cases List.mem_singleton.mp ha
      trivial
    · cases ha
  · trivial

/-- Some acts are done about certain stimuli only. -/
theorem cause_of_acts {s : State} {x : Stimulus} {a : Act} (ha : a ∈ s.acts x) : a.Cause x := by
  have hshow {t : State} (hm : a ∈ t.showActs) : a.Cause x := by
    obtain ⟨name, rfl⟩ := display_of_mem_showActs hm
    trivial
  cases x with
  | bootstrap answer =>
    cases answer with
    | error e => cases ha
    | ok r =>
      rw [acts] at ha
      split at ha
      · exact cause_loadActs ha
      · cases ha
  | command key c =>
    rw [acts] at ha
    split at ha
    · cases c <;> simp only [commandActs] at ha <;> grind [Act.Cause]
    · cases ha
  | inbound e =>
    rw [acts] at ha
    split at ha
    · cases e <;> simp only [inboundActs] at ha <;> grind [Act.Cause]
    · cases ha
  | event e =>
    cases e with
    | created key answer =>
      cases answer <;> simp only [acts, eventActs, createdActs] at ha <;> grind [Act.Cause]
    | deleted name answer =>
      cases answer <;> simp only [acts, eventActs, deletedActs] at ha <;> grind [Act.Cause]
    | _ => simp only [acts, eventActs] at ha; grind [Act.Cause]
  | _ =>
    cases List.mem_singleton.mp ha
    grind [Act.Cause]

private theorem reason_of_called {a : Act} {e : Effect} (calls : List Terminal.Call)
    (he : e ∈ calls.map Effect.call) : e.Reason a := by
  obtain ⟨c, -, rfl⟩ := List.mem_map.mp he
  trivial

private theorem reason_of_performAside {s : State} {a : Aside} {e : Effect}
    (he : e ∈ (s.performAside a).effects) : e.Reason (.aside a) := by
  cases a with
  | settle =>
    rw [performAside, settle_eq] at he
    split at he
    · obtain ⟨g, -, rfl⟩ := Option.map_eq_some_iff.mp (Option.mem_toList.mp he)
      rfl
    · cases he
  | builderOut data => exact reason_of_called _ he
  | setConnected connected =>
    obtain ⟨told, hset⟩ := s.setConnected_eq connected
    rw [performAside, hset] at he
    obtain ⟨n, -, rfl⟩ := Option.map_eq_some_iff.mp (Option.mem_toList.mp he)
    trivial
  | attachBuilder =>
    rcases s.attachBuilder_cases with ⟨-, hattach⟩ | ⟨-, hattach⟩
    · rw [performAside, hattach] at he
      exact reason_of_called _ he
    · rw [performAside, hattach] at he
      exact reason_of_called [_] he
  | tell n =>
    cases List.mem_singleton.mp he
    trivial
  | ask r =>
    cases List.mem_singleton.mp he
    trivial
  | emitClose =>
    cases List.mem_singleton.mp he
    trivial
  | _ => cases he

/-- Nothing but a display is a reason to make a widget, nothing but a debounce that has settled a
reason to send a geometry, and nothing but the end of the session a reason to close the channel. -/
theorem reason_of_perform {s : State} {a : Act} {e : Effect} (he : e ∈ (s.perform a).effects) :
    e.Reason a := by
  cases a with
  | forget name =>
    obtain ⟨calls, hforget⟩ := s.forget_eq name
    rw [perform, hforget] at he
    exact reason_of_called _ he
  | display name =>
    rcases display_cases s name with ⟨_, _, -, -, -, hd⟩ | ⟨_, _, _, -, -, -, hd⟩ | ⟨-, hd⟩ <;>
      rw [hd] at he
    · exact reason_of_called [_] he
    · rcases List.mem_cons.mp he with rfl | hm
      · rfl
      · exact reason_of_called _ hm
    · cases he
  | route name data => exact reason_of_called _ he
  | resizeAll g => exact reason_of_called _ he
  | flush name =>
    cases hi : s.roster.get? name with
    | none =>
      rw [perform, flush_eq_of_none hi] at he
      cases he
    | some i =>
      rw [perform, flush_eq hi] at he
      split at he
      · obtain ⟨text, -, rfl⟩ := Option.map_eq_some_iff.mp (Option.mem_toList.mp he)
        trivial
      · cases he
  | terminate =>
    rw [perform, terminate] at he
    split at he
    · rcases List.mem_append.mp he with hm | hm
      · exact reason_of_called _ hm
      · rcases List.mem_pair.mp hm with rfl | rfl
        · rfl
        · trivial
    · cases he
  | aside a => exact reason_of_performAside he
  | _ => cases he

theorem reason_of_performAll {s : State} {as : List Act} {e : Effect}
    (he : e ∈ (s.performAll as).effects) : ∃ a ∈ as, e.Reason a := by
  induction as generalizing s with
  | nil => cases he
  | cons a as ih =>
    rw [performAll_cons, Step.andThen] at he
    rcases List.mem_append.mp he with hm | hm
    · exact ⟨a, List.mem_cons_self, reason_of_perform hm⟩
    · obtain ⟨b, hb, hr⟩ := ih hm
      exact ⟨b, List.mem_cons_of_mem a hb, hr⟩

/-! ## The geometry announced -/

/-- The geometry that the backend announces with a stimulus. After the end of the session none
is heard. -/
def pushes (s : State) : Stimulus → List Geometry
  | .inbound (.viewportResize g) => if s.isAlive then [g] else []
  | _ => []

/-- An announced geometry replaces the one before, and nothing else does. -/
theorem current_perform (s : State) (a : Act) :
    (s.perform a).state.viewport.current = a.pushes.getLast?.or s.viewport.current := by
  have hnone (h : ∀ g, a ≠ .resizeAll g) : a.pushes = [] := by
    cases a with
    | resizeAll g => exact absurd rfl (h g)
    | _ => rfl
  cases s.shift_perform a with
  | announced g ha hv =>
    subst ha
    rw [hv]
    rfl
  | proposed g serial hp hs hv =>
    rw [hv, hnone fun d hd => by rw [hd] at hp; cases hp]
    rfl
  | cancelled ha hd hv =>
    rw [hv, ha]
    rfl
  | moved moment ha hv =>
    rw [hv, ha]
    rfl
  | settled ha hv =>
    rw [hv, ha]
    exact (Viewport.settle_settled s.viewport).2.2
  | kept hp hs hv =>
    rw [hv, hnone fun d hd => by rw [hd] at hs; cases hs]
    rfl

theorem current_performAll (s : State) (as : List Act) :
    (s.performAll as).state.viewport.current =
      (as.flatMap Act.pushes).getLast?.or s.viewport.current := by
  induction as generalizing s with
  | nil => rfl
  | cons a as ih =>
    have hrest := ih (s.perform a).state
    rw [current_perform, ← Option.or_assoc, ← List.getLast?_append] at hrest
    exact hrest

/-- Only a push is a reason to take a geometry. -/
theorem pushes_acts (s : State) (x : Stimulus) :
    (s.acts x).flatMap Act.pushes = s.pushes x := by
  by_cases hx : ∃ g, x = .inbound (.viewportResize g)
  · obtain ⟨g, rfl⟩ := hx
    rw [acts, pushes]
    split <;> rfl
  · have hpushes : s.pushes x = [] := by
      unfold pushes
      split
      · next g => exact absurd ⟨g, rfl⟩ hx
      · rfl
    rw [hpushes, List.flatMap_eq_nil_iff]
    intro a ha
    cases a with
    | resizeAll g => exact absurd ⟨g, cause_of_acts ha⟩ hx
    | _ => rfl

/-- The geometry announced is the last one pushed. -/
theorem current_run {s : State} (h : s.Coherent) (xs : List Stimulus) :
    (s.run xs).state.viewport.current = (s.gather pushes xs).getLast?.or s.viewport.current := by
  induction xs generalizing s with
  | nil => rfl
  | cons x xs ih =>
    have hrest := ih (h.respond x)
    have hfirst : (s.respond x).state.viewport.current =
        (s.pushes x).getLast?.or s.viewport.current := by
      rw [respond_eq h.roster, current_performAll, pushes_acts]
    rw [hfirst, ← Option.or_assoc, ← List.getLast?_append] at hrest
    exact hrest

end State
end TermSync.Session

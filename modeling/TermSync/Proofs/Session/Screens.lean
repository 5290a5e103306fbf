import TermSync.Proofs.Session.Holding

/-!
# The screens of a session

Each name has a screen, which is empty as long as there is no instance. What is done to widgets is
done to those attached to these screens, to the builder console's, or to new ones; and only to
display an instance gives a widget the keyboard.

Main statements: `of_mem_calls` (whose widgets an act touches), `isPast_run` (new widgets are new),
and for each act what becomes of the screens.
-/

namespace TermSync.Session

open Roster (Instance Record)
open Terminal (Call Screen Widget)
open Text (Bytes)

namespace State

/-! ## Screens -/

theorem holding_screen : Holding Instance.screen {} where
  ofRecord _ := rfl
  merge _ _ := rfl
  provisional _ := rfl
  note n i := (n.applyTo_eq i).2.1
  moveTo _ _ := rfl

/-- The screen on which output for a name is shown. -/
def screen (s : State) (name : String) : Screen := s.held Instance.screen {} name

theorem screen_of_get? {s : State} {name : String} {i : Instance}
    (h : s.roster.get? name = some i) : s.screen name = i.screen := held_of_get? h

theorem exists_of_screen {s : State} {name : String} {w : Widget}
    (h : (s.screen name).widget = some w) :
    ∃ i, s.roster.get? name = some i ∧ i.screen.widget = some w := by
  unfold screen held at h
  cases hg : s.roster.get? name with
  | none => simp [hg] at h
  | some i => exact ⟨i, rfl, by simpa [hg] using h⟩

theorem Coherent.drained_screen {s : State} (h : s.Coherent) (name : String) :
    (s.screen name).Drained := by
  intro w hw
  obtain ⟨i, hi, hv⟩ := exists_of_screen hw
  rw [screen_of_get? hi]
  exact h.drained name i hi w hv

/-- No two screens have a widget in common. -/
theorem Coherent.eq_of_screen {s : State} (h : s.Coherent) {m n : String} {w : Widget}
    (hm : (s.screen m).widget = some w) (hn : (s.screen n).widget = some w) : m = n := by
  obtain ⟨i, hi, hv⟩ := exists_of_screen hm
  obtain ⟨j, hj, hw⟩ := exists_of_screen hn
  exact h.eq_of_widget hi hj hv hw

/-- No screen's widget is the builder console's, or a new one. -/
theorem Coherent.screen_ne {s t : State} (h : s.Coherent) {name : String} {w : Widget}
    (hw : s.IsAside t w) : (s.screen name).widget ≠ some w := by
  intro he
  obtain ⟨i, hi, hv⟩ := exists_of_screen he
  obtain ⟨-, hl, hb⟩ := h.attached name i w hi hv
  rcases hw with hw | hw
  · exact hb hw
  · omega

theorem screen_route (s : State) (n name : String) (data : Bytes) :
    (s.perform (.route n data)).state.screen name =
      if n = name then ((s.screen name).deliver data).1 else s.screen name := by
  unfold screen held
  rw [perform, State.withRoster, Roster.get?_route]
  by_cases hn : n = name
  · subst hn
    cases hg : s.roster.get? n <;> simp [Instance.ofRecord]
  · rw [if_neg (Ne.symm hn), if_neg hn]

theorem screen_resizeAll (s : State) (g : Terminal.Geometry) (name : String) :
    (s.resizeAll g).state.screen name = ((s.screen name).resize g).1 := by
  have hg := Roster.get?_resizeAll s.roster g name
  unfold screen held resizeAll
  simp only [hg]
  cases s.roster.get? name <;> rfl

theorem screen_type (s : State) (n name : String) (data : Bytes) :
    (s.perform (.type n data)).state.screen name = s.screen name :=
  held_update s n name _ fun _ _ => rfl

theorem screen_flush (s : State) (n name : String) :
    (s.flush n).state.screen name = s.screen name := by
  cases hi : s.roster.get? n with
  | none => rw [flush_eq_of_none hi]
  | some i =>
    rw [flush_eq hi]
    apply held_update s n name _
    intro j hj
    rw [hi] at hj
    cases hj
    exact (Instance.takeTyped_frame i).2

/-- Of the screens, only that of an instance without a widget changes when the instance is
displayed: it gets a new one. -/
theorem screen_display (s : State) (n name : String) :
    (s.perform (.display n)).state.screen name = s.screen name ∨
      n = name ∧ (s.screen name).widget = none ∧
        (s.perform (.display n)).state.screen name = { widget := some (s.newWidget name) } := by
  rcases display_cases s n with ⟨i, w, -, -, -, hd⟩ | ⟨i, _, _, -, hi, hw, hd⟩ | ⟨-, hd⟩
  · rw [hd]
    exact .inl rfl
  · have hg := get?_openedRoster s n name i
    rw [hd]
    by_cases hn : name = n
    · subst hn
      rw [if_pos rfl, hi, Option.map_some] at hg
      refine .inr ⟨rfl, by rw [screen_of_get? hi, hw], ?_⟩
      exact congrArg (fun i => (i.map Instance.screen).getD {}) hg
    · rw [if_neg hn] at hg
      exact .inl (held_of_eq hg)
  · rw [hd]
    exact .inl rfl

/-! ## Whose widgets are touched -/

/-- Serial numbers are never used again. -/
theorem nextSerial_perform (s : State) (a : Act) :
    s.nextSerial ≤ (s.perform a).state.nextSerial := by
  cases a with
  | forget name =>
    obtain ⟨_, he⟩ := s.forget_eq name
    rw [perform, he]
    exact Nat.le_refl _
  | display name =>
    rcases display_cases s name with ⟨_, _, -, -, -, hp⟩ | ⟨_, _, _, -, -, -, hp⟩ | ⟨-, hp⟩
    · simp [hp]
    · simp only [hp]
      omega
    · simp [hp]
  | flush name =>
    cases hi : s.roster.get? name with
    | none => simp [perform, flush_eq_of_none hi]
    | some i => simp [perform, flush_eq hi, update]
  | terminate =>
    simp only [perform, terminate]
    split <;> exact Nat.le_refl _
  | aside a => exact (performAside_apart s a).serial
  | _ => exact Nat.le_refl _

/-- Whose widget a call is made to: that of a screen, the builder console's, or a new one. -/
def IsOwned (s t : State) (w : Widget) : Prop :=
  (∃ name, (s.screen name).widget = some w) ∨ s.IsAside t w

/-- Output is drawn on the screen for its name. -/
theorem calls_route (s : State) (name : String) (data : Bytes) :
    Effect.calls (s.perform (.route name data)).effects = ((s.screen name).deliver data).2 := by
  rw [perform, State.withRoster, Effect.calls_map_call, Roster.route_eq, screen, held]
  cases s.roster.get? name <;> rfl

/-- When a geometry is announced, the screens of all instances take it, then the builder console. -/
theorem calls_resizeAll (s : State) (g : Terminal.Geometry) :
    Effect.calls (s.resizeAll g).effects =
      (s.roster.entries.values.flatMap fun i => (i.screen.resize g).2) ++ (s.builder.resize g).2 :=
  Effect.calls_map_call _

/-- To take an instance out releases its screen. -/
theorem calls_forget (s : State) (name : String) :
    Effect.calls (s.forget name).effects = (s.screen name).release.2 := by
  unfold forget screen held
  cases hr : s.roster.remove? name with
  | none =>
    rw [(Roster.remove?_eq_none_iff s.roster name).mp hr]
    rfl
  | some x =>
    obtain ⟨i, hi, hcalls, -⟩ := Roster.remove?_eq_some hr
    rw [hi]
    exact (Effect.calls_map_call x.calls).trans hcalls

theorem widget_of_mem_openingCalls {s : State} {name : String} {i : Instance} {c : Call}
    (hc : c ∈ s.openingCalls name i) : c.widget = s.newWidget name := by
  rcases List.mem_append.mp hc with hc | hc
  · exact (Screen.of_mem_openingCalls hc).1
  · cases List.mem_singleton.mp hc
    rfl

/-- To send input touches no widget. -/
theorem calls_flush (s : State) (name : String) : Effect.calls (s.flush name).effects = [] := by
  cases hi : s.roster.get? name with
  | none => rw [flush_eq_of_none hi]; rfl
  | some i =>
    rw [flush_eq hi]
    cases s.isAlive <;> cases i.takeTyped.1 <;> rfl

/-- Calls are made to widgets of screens, and to new ones; and only to display an instance gives a
widget the keyboard. -/
theorem of_mem_calls {s : State} {a : Act} {c : Call}
    (hc : c ∈ Effect.calls (s.perform a).effects) :
    s.IsOwned (s.perform a).state c.widget ∧ (c.action = .focus → ∃ name, a = .display name) := by
  cases a with
  | forget name =>
    rw [perform, calls_forget] at hc
    obtain ⟨hw, hf⟩ := Screen.of_mem_release hc
    exact ⟨.inl ⟨name, hw⟩, fun h => absurd h hf⟩
  | display name =>
    refine ⟨?_, fun _ => ⟨name, rfl⟩⟩
    rcases display_cases s name with ⟨i, w, -, hi, hw, hp⟩ | ⟨i, _, _, -, -, -, hp⟩ | ⟨-, hp⟩
    · rw [hp] at hc
      cases List.mem_singleton.mp hc
      exact .inl ⟨name, by rw [screen_of_get? hi, hw]⟩
    · rw [hp, Effect.calls_make, Effect.calls_map_call] at hc
      rw [hp, widget_of_mem_openingCalls hc]
      exact .inr (.inr ⟨Nat.le_refl _, by simp only [newWidget]; omega⟩)
    · rw [hp] at hc
      cases hc
  | route name data =>
    rw [calls_route] at hc
    obtain ⟨hw, hf⟩ := Screen.of_mem_deliver hc
    exact ⟨.inl ⟨name, hw⟩, fun h => absurd h hf⟩
  | resizeAll g =>
    rw [perform, calls_resizeAll, List.mem_append] at hc
    rcases hc with hc | hc
    · obtain ⟨i, hi, hc⟩ := List.mem_flatMap.mp hc
      obtain ⟨name, hg⟩ := (Roster.Table.mem_values_iff _ i).mp hi
      obtain ⟨hw, hf⟩ := Screen.of_mem_resize hc
      exact ⟨.inl ⟨name, by rw [screen_of_get? hg, hw]⟩, fun h => absurd h hf⟩
    · obtain ⟨hw, hf⟩ := Screen.of_mem_resize hc
      exact ⟨.inr (.inl hw), fun h => absurd h hf⟩
  | flush name =>
    rw [perform, calls_flush] at hc
    cases hc
  | terminate =>
    simp only [perform, terminate] at hc
    split at hc
    · simp only [Effect.calls_append, Effect.calls_map_call, List.mem_append] at hc
      rcases hc with (hc | hc) | hc
      · obtain ⟨i, hi, hc⟩ := List.mem_flatMap.mp hc
        obtain ⟨name, hg⟩ := (Roster.Table.mem_values_iff _ i).mp hi
        obtain ⟨hw, hf⟩ := Screen.of_mem_release hc
        exact ⟨.inl ⟨name, by rw [screen_of_get? hg, hw]⟩, fun h => absurd h hf⟩
      · obtain ⟨hw, hf⟩ := Screen.of_mem_release hc
        exact ⟨.inr (.inl hw), fun h => absurd h hf⟩
      · cases hc
    · cases hc
  | aside a =>
    obtain ⟨hf, hw⟩ := (performAside_apart s a).touched c hc
    exact ⟨.inr hw, fun h => absurd h hf⟩
  | _ => cases hc

/-! ## Calls that were made -/

/-- Calls that were made: new widgets are none of those to which they were made. -/
def IsPast (s : State) (past : List Call) : Prop := ∀ c ∈ past, c.widget.serial < s.nextSerial

theorem isPast_perform {s : State} (h : s.Coherent) {past : List Call} (hp : s.IsPast past)
    (a : Act) :
    (s.perform a).state.IsPast (past ++ Effect.calls (s.perform a).effects) := by
  have hle := nextSerial_perform s a
  intro c hc
  rcases List.mem_append.mp hc with hc | hc
  · exact Nat.lt_of_lt_of_le (hp c hc) hle
  · rcases (of_mem_calls hc).1 with ⟨name, hw⟩ | hb | hn
    · obtain ⟨i, hi, hv⟩ := exists_of_screen hw
      exact Nat.lt_of_lt_of_le (h.attached name i c.widget hi hv).2.1 hle
    · exact Nat.lt_of_lt_of_le (h.builder c.widget hb) hle
    · exact hn.2

theorem isPast_performAll {s : State} (h : s.Coherent) {past : List Call} (hp : s.IsPast past)
    (as : List Act) :
    (s.performAll as).state.IsPast (past ++ Effect.calls (s.performAll as).effects) := by
  induction as generalizing s past with
  | nil => simpa using hp
  | cons a as ih =>
    have hi := ih (h.perform a) (isPast_perform h hp a)
    rw [List.append_assoc, ← Effect.calls_append] at hi
    exact hi

theorem isPast_run (id : String) (setup : Setup) (xs : List Stimulus) :
    ((initial id setup).run xs).state.IsPast
      (Effect.calls ((initial id setup).run xs).effects) := by
  have h := Coherent.initial id setup
  have hnone : (initial id setup).IsPast [] := fun c hc => by cases hc
  rw [run_eq h]
  exact isPast_performAll h hnone _

end State
end TermSync.Session

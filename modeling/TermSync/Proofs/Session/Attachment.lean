import TermSync.Proofs.Session.Focus

/-!
# Attaching widgets to screens

An instance is displayed at most once in a response, and whatever else is done then draws on no
widget. So a response that attaches a widget to an instance's screen makes the same calls whatever
the stimulus: the widget is opened, draws what was kept, and gets the keyboard.

Main statements: `displaysOnly_acts`, `display_of_attach` and `calls_of_attach` (how a widget is
attached, by an act and by a response), and `numberedFrom_performAll` (whose widgets get the
keyboard).
-/

namespace TermSync.Session

open Terminal (Call Screen Widget)

/-- Whether an act does nothing to any widget, or drops it. -/
def Act.isMute : Act → Bool
  | .learn _ => true
  | .forget _ => true
  | .aside (.relate _) => true
  | .aside .startCountdown => true
  | .aside (.tell _) => true
  | _ => false

/-- Acts that display an instance, once, and otherwise draw on no widget. -/
def DisplaysOnly (name : String) (as : List Act) : Prop :=
  ∃ before later, as = before ++ .display name :: later ∧ ∀ a ∈ before ++ later, a.isMute = true

namespace State

/-! ## Responses that attach a widget -/

private theorem displaysOnly_of_mem (as : List Act) {shown : List Act} (bs : List Act)
    {name : String} (hm : ∀ a ∈ as ++ bs, a.isMute = true)
    (hs : shown = [] ∨ ∃ n, shown = [.display n])
    (h : .display name ∈ as ++ (shown ++ bs)) : DisplaysOnly name (as ++ (shown ++ bs)) := by
  have hshown : .display name ∈ shown := by
    rcases List.mem_append.mp h with ha | ha
    · cases hm _ (List.mem_append_left _ ha)
    · rcases List.mem_append.mp ha with ha | ha
      · exact ha
      · cases hm _ (List.mem_append_right _ ha)
  rcases hs with rfl | ⟨n, rfl⟩
  · cases hshown
  · cases List.mem_singleton.mp hshown
    exact ⟨as, bs, rfl, hm⟩

private theorem displaysOnly_singleton {name n : String} (h : .display name ∈ [Act.display n]) :
    DisplaysOnly name [.display n] :=
  displaysOnly_of_mem [] [] (by simp) (.inr ⟨n, rfl⟩) h

private theorem displaysOnly_showActs {s : State} {name : String} (as : List Act)
    (hm : ∀ a ∈ as, a.isMute = true) (h : .display name ∈ as ++ s.showActs) :
    DisplaysOnly name (as ++ s.showActs) := by
  have hs : s.showActs = [] ∨ ∃ n, s.showActs = [.display n] := by
    unfold showActs
    split
    · exact .inr ⟨_, rfl⟩
    · exact .inl rfl
  rw [← List.append_nil s.showActs] at h ⊢
  exact displaysOnly_of_mem as [] (by simpa using hm) hs h

private theorem displaysOnly_loadActs {s : State} {name : String} {r : Rest.SessionRecord}
    (h : .display name ∈ s.loadActs r) : DisplaysOnly name (s.loadActs r) := by
  refine displaysOnly_of_mem _ _ ?_ ?_ h
  · intro a hm
    simp only [List.mem_append, List.mem_cons, List.mem_map, List.not_mem_nil, or_false] at hm
    rcases hm with (rfl | ⟨entry, -, rfl⟩) | rfl <;> rfl
  · split
    · exact .inr ⟨_, rfl⟩
    · exact .inl rfl

private theorem displaysOnly_commandActs {s : State} {name key : String} {c : Command}
    (h : .display name ∈ s.commandActs key c) : DisplaysOnly name (s.commandActs key c) := by
  cases c with
  | select n => exact displaysOnly_singleton h
  | _ =>
    simp only [commandActs] at h
    grind

private theorem displaysOnly_inboundActs {s : State} {name : String} {e : Wire.Inbound}
    (h : .display name ∈ s.inboundActs e) : DisplaysOnly name (s.inboundActs e) := by
  cases e with
  | instanceNew record =>
    rw [inboundActs, ← List.singleton_append, ← List.append_nil (ite _ _ _)] at h ⊢
    refine displaysOnly_of_mem _ _ (by simp [Act.isMute]) ?_ h
    split
    · exact .inr ⟨_, rfl⟩
    · exact .inl rfl
  | instanceDelete n => exact displaysOnly_showActs [.forget n] (by simp [Act.isMute]) h
  | _ =>
    simp only [inboundActs] at h
    grind

private theorem displaysOnly_eventActs {s : State} {name : String} {e : Event}
    (ha : s.isAlive = true) (h : .display name ∈ s.eventActs e) :
    DisplaysOnly name (s.eventActs e) := by
  cases e with
  | created key answer =>
    rw [eventActs, if_pos ha] at h ⊢
    cases answer with
    | ok record =>
      exact displaysOnly_of_mem [.forget key, .learn record] [] (by simp [Act.isMute])
        (.inr ⟨record.name, rfl⟩) h
    | error e =>
      exact displaysOnly_showActs [.forget key, .aside (.tell (.ofFailure "create" e))]
        (by simp [Act.isMute]) h
  | deleted n answer =>
    rw [eventActs, if_pos ha] at h ⊢
    cases answer with
    | ok u => exact displaysOnly_showActs [.forget n] (by simp [Act.isMute]) h
    | error e => simp [deletedActs] at h
  | _ => simp [eventActs, ha] at h

/-- A response displays one instance at most, and if it does it draws on no other widget. -/
theorem displaysOnly_acts {s : State} {x : Stimulus} {name : String}
    (h : .display name ∈ s.acts x) : DisplaysOnly name (s.acts x) := by
  cases ha : s.isAlive with
  | false =>
    cases x with
    | bootstrap answer => cases answer <;> simp [acts, ha] at h
    | event e => cases e <;> simp [acts, eventActs, ha] at h
    | select n => exact displaysOnly_singleton h
    | _ => simp [acts, ha] at h
  | true =>
    cases x with
    | bootstrap answer =>
      cases answer with
      | error e => cases h
      | ok r =>
        rw [acts, if_pos ha] at h ⊢
        exact displaysOnly_loadActs h
    | command key c =>
      rw [acts, if_pos ha] at h ⊢
      exact displaysOnly_commandActs h
    | inbound e =>
      rw [acts, if_pos ha] at h ⊢
      exact displaysOnly_inboundActs h
    | event e => exact displaysOnly_eventActs ha h
    | select n => exact displaysOnly_singleton h
    | _ => cases List.mem_singleton.mp h

theorem drops_of_mute {s : State} {a : Act} (h : a.isMute = true) :
    ∀ c ∈ Effect.calls (s.perform a).effects, c.action = .drop := by
  intro c hc
  unfold Act.isMute at h
  split at h
  · cases hc
  · next name =>
    rw [perform, calls_forget] at hc
    exact (Screen.mem_release.mp hc).1
  · cases hc
  · cases hc
  · cases hc
  · cases h

private theorem spares_of_mute {a : Act} (h : a.isMute = true) : a.spares = true := by
  cases a with
  | learn record => rfl
  | forget name => rfl
  | aside a => rfl
  | _ => cases h

/-- Acts that are mute draw on no widget. -/
theorem drops_performAll {s : State} {as : List Act} (h : ∀ a ∈ as, a.isMute = true) :
    ∀ c ∈ Effect.calls (s.performAll as).effects, c.action = .drop := by
  induction as generalizing s with
  | nil =>
    intro c hc
    cases hc
  | cons a as ih =>
    rw [performAll_cons, Step.andThen, Effect.calls_append]
    intro c hc
    rcases List.mem_append.mp hc with hc | hc
    · exact drops_of_mute (h a List.mem_cons_self) c hc
    · exact ih (fun b hb => h b (List.mem_cons_of_mem a hb)) c hc

/-- Acts that are mute leave the screens alone of the instances that stay. -/
theorem screen_performAll {s : State} {name : String} {as : List Act}
    (h : ∀ a ∈ as, a.isMute = true) (hr : ∀ a ∈ as, a.removes name = false) :
    (s.performAll as).state.screen name = s.screen name := by
  induction as generalizing s with
  | nil => rfl
  | cons a as ih =>
    have hrest := ih (s := (s.perform a).state) (fun b hb => h b (List.mem_cons_of_mem a hb))
      fun b hb => hr b (List.mem_cons_of_mem a hb)
    have hspares := spares_of_mute (h a List.mem_cons_self)
    exact hrest.trans (held_perform holding_screen s hspares (hr a List.mem_cons_self))

private theorem widget_performAll {s : State} {as : List Act}
    (h : ∀ a ∈ as, ∀ name, a ≠ .display name) {name : String}
    (hr : ∀ a ∈ as, a.removes name = false) :
    ((s.performAll as).state.screen name).widget = (s.screen name).widget := by
  induction as generalizing s with
  | nil => rfl
  | cons a as ih =>
    have hrest := ih (s := (s.perform a).state) (fun b hb => h b (List.mem_cons_of_mem a hb))
      fun b hb => hr b (List.mem_cons_of_mem a hb)
    exact hrest.trans (widget_perform s (h a List.mem_cons_self) (hr a List.mem_cons_self))

theorem nextSerial_performAll (s : State) (as : List Act) :
    s.nextSerial ≤ (s.performAll as).state.nextSerial := by
  induction as generalizing s with
  | nil => exact Nat.le_refl _
  | cons a as ih => exact Nat.le_trans (nextSerial_perform s a) (ih (s.perform a).state)

/-- To display an instance attaches a widget to no screen but its own. It is a new one, which is
opened and then gets the keyboard. -/
theorem display_of_attach {s : State} {n name : String} {w : Widget}
    (hs : (s.screen name).widget = none)
    (ht : ((s.perform (.display n)).state.screen name).widget = some w) :
    n = name ∧ w = s.newWidget name ∧
      Effect.calls (s.perform (.display n)).effects =
        (s.screen name).openingCalls w s.viewport.current ++ [⟨w, .focus⟩] ∧
      (s.perform (.display n)).state.screen name = { widget := some w } := by
  rcases screen_display s n name with he | ⟨rfl, -, he⟩
  · rw [he, hs] at ht
    cases ht
  obtain rfl : s.newWidget n = w := by
    rw [he] at ht
    exact Option.some.inj ht
  refine ⟨rfl, rfl, ?_, he⟩
  rcases display_cases s n with ⟨i, v, -, hi, hattached, -⟩ | ⟨i, _, _, -, hi, -, hp⟩ | ⟨-, hp⟩
  · rw [screen_of_get? hi, hattached] at hs
    cases hs
  · rw [hp, Effect.calls_make, Effect.calls_map_call, openingCalls, screen_of_get? hi]
  · rw [hp, hs] at ht
    cases ht

/-- Only to display an instance attaches a widget to a screen. -/
private theorem exists_display_of_attach {s : State} (h : s.Coherent) {x : Stimulus}
    {name : String} {w : Widget} (hs : (s.screen name).widget = none)
    (ht : ((s.respond x).state.screen name).widget = some w) (hx : x.removes name = false) :
    ∃ n, .display n ∈ s.acts x := by
  by_contra hno
  have hnone : ∀ a ∈ s.acts x, ∀ n, a ≠ .display n := by
    rintro a hm n rfl
    exact hno ⟨n, hm⟩
  rw [respond_eq h.roster, widget_performAll hnone fun a hm => removes_of_mem_acts hx hm, hs] at ht
  cases ht

/-- A response that attaches a widget to an instance's screen opens it, which draws what was kept
for it, then gives it the keyboard, and draws on no other widget. -/
theorem calls_of_attach {s : State} (h : s.Coherent) {x : Stimulus} {name : String} {w : Widget}
    (hs : (s.screen name).widget = none)
    (ht : ((s.respond x).state.screen name).widget = some w) (hx : x.removes name = false) :
    ∃ geometry before later,
      Effect.calls (s.respond x).effects =
        before ++ (((s.screen name).openingCalls w geometry ++ [⟨w, .focus⟩]) ++ later) ∧
      (∀ c ∈ before ++ later, c.action = .drop) ∧ w.name = name ∧ s.nextSerial ≤ w.serial ∧
      (s.respond x).state.screen name = { widget := some w } := by
  obtain ⟨n, hn⟩ := exists_display_of_attach h hs ht hx
  obtain ⟨before, later, hacts, hmute⟩ := displaysOnly_acts hn
  have hremoves : ∀ a ∈ before ++ .display n :: later, a.removes name = false :=
    hacts ▸ fun a hm => removes_of_mem_acts hx hm
  rw [respond_eq h.roster, hacts, performAll_append] at ht ⊢
  -- The acts are cut at the display: what comes before it and after it leaves the screen alone.
  let u := (s.performAll before).state
  let v := (u.perform (.display n)).state
  have hbefore : ∀ a ∈ before, a.isMute = true := fun a hm => hmute a (List.mem_append_left _ hm)
  have hlater : ∀ a ∈ later, a.isMute = true := fun a hm => hmute a (List.mem_append_right _ hm)
  have hu : u.screen name = s.screen name :=
    screen_performAll hbefore fun a hm => hremoves a (List.mem_append_left _ hm)
  have hv : (v.performAll later).state.screen name = v.screen name :=
    screen_performAll hlater fun a hm =>
      hremoves a (List.mem_append_right _ (List.mem_cons_of_mem _ hm))
  have hdetached : (u.screen name).widget = none := (congrArg Screen.widget hu).trans hs
  have hw : (v.screen name).widget = some w := (congrArg Screen.widget hv).symm.trans ht
  obtain ⟨rfl, rfl, hopening, hscreen⟩ := display_of_attach hdetached hw
  refine ⟨u.viewport.current, Effect.calls (s.performAll before).effects,
    Effect.calls (v.performAll later).effects, ?_, ?_, rfl, nextSerial_performAll s before,
    hv.trans hscreen⟩
  · rw [Step.andThen, Effect.calls_append, performAll_cons, Step.andThen, Effect.calls_append,
      hopening, hu]
  · intro c hc
    exact (List.mem_append.mp hc).elim (drops_performAll hbefore c) (drops_performAll hlater c)

/-! ## The numbers of widgets -/

/-- The widgets of all screens, and those to come, have numbers from a certain one on. -/
structure NumberedFrom (n : Nat) (s : State) : Prop where
  next : n ≤ s.nextSerial
  screens : ∀ name w, (s.screen name).widget = some w → n ≤ w.serial

/-- Only to display an instance gives a screen a widget. -/
theorem widget_of_perform {s : State} {a : Act} (ha : ∀ n, a ≠ .display n) {name : String}
    {w : Widget} (hw : ((s.perform a).state.screen name).widget = some w) :
    (s.screen name).widget = some w := by
  cases hr : a.removes name with
  | false => rwa [widget_perform s ha hr] at hw
  | true =>
    obtain ⟨i, hi, -⟩ := exists_of_screen hw
    cases a with
    | forget n =>
      obtain rfl : n = name := by simpa [Act.removes] using hr
      rw [perform, get?_forget, if_pos rfl] at hi
      cases hi
    | terminate =>
      rw [perform, terminate] at hi hw
      split at hi
      · simp [Roster.get?] at hi
      · next hd => rwa [if_neg hd] at hw
    | _ => cases hr

theorem numberedFrom_perform {n : Nat} {s : State} (h : NumberedFrom n s) (a : Act) :
    NumberedFrom n (s.perform a).state ∧
      ∀ c ∈ Effect.calls (s.perform a).effects, c.action = .focus → n ≤ c.widget.serial := by
  have hnew (name : String) : n ≤ (s.newWidget name).serial := h.next
  refine ⟨⟨Nat.le_trans h.next (nextSerial_perform s a), ?_⟩, ?_⟩
  · intro name w hw
    by_cases hd : ∃ m, a = .display m
    · obtain ⟨m, rfl⟩ := hd
      rcases screen_display s m name with he | ⟨rfl, -, he⟩
      · exact h.screens name w (he ▸ hw)
      · rw [he] at hw
        cases hw
        exact hnew m
    · exact h.screens name w (widget_of_perform (fun m he => hd ⟨m, he⟩) hw)
  · intro c hc hf
    obtain ⟨m, rfl⟩ := (of_mem_calls hc).2 hf
    rcases display_cases s m with ⟨i, w, -, hi, hw, hp⟩ | ⟨i, _, _, -, -, -, hp⟩ | ⟨-, hp⟩
    · rw [hp] at hc
      cases List.mem_singleton.mp hc
      exact h.screens m w (by rw [screen_of_get? hi, hw])
    · rw [hp, Effect.calls_make, Effect.calls_map_call] at hc
      rw [widget_of_mem_openingCalls hc]
      exact hnew m
    · rw [hp] at hc
      cases hc

theorem numberedFrom_performAll {n : Nat} {s : State} (h : NumberedFrom n s) (as : List Act) :
    NumberedFrom n (s.performAll as).state ∧
      ∀ c ∈ Effect.calls (s.performAll as).effects, c.action = .focus → n ≤ c.widget.serial := by
  induction as generalizing s with
  | nil => exact ⟨h, fun c hc => by cases hc⟩
  | cons a as ih =>
    obtain ⟨hstate, hcalls⟩ := numberedFrom_perform h a
    obtain ⟨hrest, hmore⟩ := ih hstate
    refine ⟨hrest, ?_⟩
    rw [performAll_cons, Step.andThen, Effect.calls_append]
    intro c hc
    exact (List.mem_append.mp hc).elim (hcalls c) (hmore c)

end State
end TermSync.Session

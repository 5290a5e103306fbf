import TermSync.Proofs.Session.Acts
import TermSync.Proofs.Session.EventLoop
import TermSync.Proofs.Terminal.Screen

/-!
# Coherence of a session

What ties the parts of a session together in every state that a run reaches: the roster is
consistent; a widget that is attached goes by the name of its instance, is no other's, is older
than the next one, and has drawn all there is to draw.

Main statements: `display_cases` and `flush_eq` (what it is to display an instance and to send its
input), `performAside_apart` (what the acts without instances leave alone), `coherent_run`.
-/

namespace TermSync.Session

open Roster (Instance Record)
open Terminal (Call Geometry Screen Widget)
open Text (Bytes)

namespace Effect

@[simp] theorem made_append (es fs : List Effect) : made (es ++ fs) = made es ++ made fs :=
  List.filterMap_append

@[simp] theorem made_make (w : Widget) (es : List Effect) :
    made (.make w :: es) = w :: made es := rfl

theorem mem_made {effects : List Effect} {w : Widget} : w ∈ made effects ↔ .make w ∈ effects := by
  rw [made, List.mem_filterMap]
  constructor
  · rintro ⟨e, he, hw⟩
    split at hw
    · cases hw
      exact he
    · cases hw
  · exact fun he => ⟨.make w, he, rfl⟩

@[simp] theorem calls_make (w : Widget) (es : List Effect) : calls (.make w :: es) = calls es := rfl

private theorem filterMap_map_call {α : Type} {f : Effect → Option α} (h : ∀ c, f (.call c) = none)
    (cs : List Call) : (cs.map .call).filterMap f = [] := by
  simp [List.filterMap_map, h]

@[simp] theorem made_map_call (cs : List Call) : made (cs.map .call) = [] :=
  filterMap_map_call (fun _ => rfl) cs

@[simp] theorem calls_nil : calls [] = [] := rfl

@[simp] theorem calls_append (es fs : List Effect) : calls (es ++ fs) = calls es ++ calls fs :=
  List.filterMap_append

@[simp] theorem calls_map_call (cs : List Call) : calls (cs.map .call) = cs := by
  induction cs with
  | nil => rfl
  | cons c cs ih =>
    show c :: calls (cs.map .call) = c :: cs
    rw [ih]

@[simp] theorem emitted_nil : emitted [] = [] := rfl

@[simp] theorem emitted_append (es fs : List Effect) :
    emitted (es ++ fs) = emitted es ++ emitted fs := List.filterMap_append

@[simp] theorem emitted_map_call (cs : List Call) : emitted (cs.map .call) = [] :=
  filterMap_map_call (fun _ => rfl) cs

@[simp] theorem requests_append (es fs : List Effect) :
    requests (es ++ fs) = requests es ++ requests fs := List.filterMap_append

@[simp] theorem requests_map_call (cs : List Call) : requests (cs.map .call) = [] :=
  filterMap_map_call (fun _ => rfl) cs

@[simp] theorem notices_append (es fs : List Effect) :
    notices (es ++ fs) = notices es ++ notices fs := List.filterMap_append

@[simp] theorem notices_map_call (cs : List Call) : notices (cs.map .call) = [] :=
  filterMap_map_call (fun _ => rfl) cs

end Effect

/-! ## What it is to display an instance -/

namespace State

/-- The widget that an instance gets when it is displayed for the first time. -/
def newWidget (s : State) (name : String) : Widget := { name, serial := s.nextSerial }

/-- An instance that is displayed for the first time. -/
def opened (s : State) (name : String) (i : Instance) : Instance :=
  { i with screen := { widget := some (s.newWidget name) } }.startFlushTimer s.now
    s.setup.flushInterval (s.nextSerial + 1)

/-- The roster in which an instance is displayed for the first time. -/
def openedRoster (s : State) (name : String) (i : Instance) : Roster :=
  { s.roster with selected := some name }.update name fun _ => s.opened name i

/-- What is done to the widget of an instance that is displayed for the first time. -/
def openingCalls (s : State) (name : String) (i : Instance) : List Call :=
  i.screen.openingCalls (s.newWidget name) s.viewport.current ++ [⟨s.newWidget name, .focus⟩]

/-- The widget that is there gets the keyboard. -/
theorem display_of_attached (s : State) (name : String) {i : Instance} {w : Widget}
    (h : i.screen.widget = some w) :
    s.display name i =
      { state := { s with roster := { s.roster with selected := some name } }
        effects := [.call ⟨w, .focus⟩] } := by
  simp [display, Screen.attach?, h, withRoster, Screen.focus]

/-- An instance without a widget gets a new one, and what that would like is proposed. -/
theorem display_of_detached (s : State) (name : String) {i : Instance}
    (h : i.screen.widget = none) :
    s.display name i =
      { state :=
          { s with
            roster := s.openedRoster name i
            nextSerial := s.nextSerial + 2 }.propose? (s.fits name)
        effects := .make (s.newWidget name) :: (s.openingCalls name i).map .call } := by
  unfold display
  dsimp only
  rw [← newWidget, Screen.attach?_eq h]
  rfl

private theorem propose?_eq (s : State) (g : Option Geometry) :
    ∃ viewport, ∃ count, s.propose? g =
      { s with viewport, nextSerial := s.nextSerial + count } := by
  cases g with
  | none => exact ⟨s.viewport, 0, rfl⟩
  | some g => exact ⟨_, 1, rfl⟩

private theorem display_detached (s : State) (name : String) {i : Instance}
    (h : i.screen.widget = none) :
    ∃ viewport, ∃ count, s.display name i =
      { state :=
          { s with
            roster := s.openedRoster name i
            viewport
            nextSerial := s.nextSerial + 2 + count }
        effects := .make (s.newWidget name) :: (s.openingCalls name i).map .call } := by
  obtain ⟨viewport, count, hp⟩ := propose?_eq
    { s with roster := s.openedRoster name i, nextSerial := s.nextSerial + 2 } (s.fits name)
  exact ⟨viewport, count, by rw [display_of_detached s name h, hp]⟩

/-- What comes of displaying: the widget that is there gets the keyboard, or a new one is opened;
nothing comes of it after the end of the session or without an instance. -/
theorem display_cases (s : State) (name : String) :
    (∃ i w, s.isAlive = true ∧ s.roster.get? name = some i ∧ i.screen.widget = some w ∧
      s.perform (.display name) =
        { state := { s with roster := { s.roster with selected := some name } }
          effects := [.call ⟨w, .focus⟩] }) ∨
    (∃ i viewport count, s.isAlive = true ∧ s.roster.get? name = some i ∧
      i.screen.widget = none ∧
      s.perform (.display name) =
        { state :=
            { s with
              roster := s.openedRoster name i
              viewport
              nextSerial := s.nextSerial + 2 + count }
          effects := .make (s.newWidget name) :: (s.openingCalls name i).map .call }) ∨
    (s.isAlive = false ∨ s.roster.get? name = none) ∧
      s.perform (.display name) = { state := s } := by
  simp only [perform, Step.orStay, Step.attempt, select]
  cases ha : s.isAlive with
  | false => exact .inr (.inr ⟨.inl rfl, rfl⟩)
  | true =>
    cases hg : s.roster.get? name with
    | none => exact .inr (.inr ⟨.inr rfl, rfl⟩)
    | some i =>
      cases hw : i.screen.widget with
      | some w =>
        refine .inl ⟨i, w, rfl, rfl, hw, ?_⟩
        simp [display_of_attached s name hw]
      | none =>
        obtain ⟨viewport, count, hd⟩ := display_detached s name hw
        refine .inr (.inl ⟨i, viewport, count, rfl, rfl, hw, ?_⟩)
        simp [hd]

/-- What is found under each name once a widget was opened for an instance. -/
theorem get?_openedRoster (s : State) (name other : String) (i : Instance) :
    (s.openedRoster name i).get? other =
      if other = name then (s.roster.get? name).map fun _ => s.opened name i
      else s.roster.get? other :=
  Roster.get?_update _ name other _

/-! ## What some steps come to -/

/-- To compute the countdown and let it tick touches nothing else; it may take a number. -/
theorem startCountdown_eq (s : State) :
    ∃ countdown countdownTimer count, s.startCountdown =
      { s with countdown, countdownTimer, nextSerial := s.nextSerial + count } := by
  unfold startCountdown
  dsimp only
  split
  · exact ⟨_, _, 1, rfl⟩
  · exact ⟨_, _, 0, rfl⟩

/-- The user may be told that the channel went up or down. -/
theorem setConnected_eq (s : State) (connected : Bool) :
    ∃ told : Option Notice, s.setConnected connected =
      { state := { s with connected }, effects := (told.map .tell).toList } := by
  unfold setConnected
  split
  · next he => exact ⟨none, by rw [← he]; rfl⟩
  · exact ⟨some (.connectionChanged connected), rfl⟩

/-- What settles is sent while the session is alive. -/
theorem settle_eq (s : State) :
    s.settle =
      { state := { s with viewport := s.viewport.settle.2 }
        effects :=
          if s.isAlive then
            (s.viewport.settle.1.map fun g => .emit (.viewportResize g)).toList
          else [] } := by
  unfold settle
  dsimp only
  cases s.viewport.settle.1 with
  | none => cases s.isAlive <;> rfl
  | some g => cases s.isAlive <;> rfl

/-- A widget that is attached to the builder console is opened, or it is dropped if there is one
already. -/
theorem attachBuilder_cases (s : State) :
    (s.builder.widget = none ∧
      s.attachBuilder.2 =
        { state :=
            { s with
              builder := { widget := some (s.newWidget builderName) }
              nextSerial := s.nextSerial + 1 }
          effects :=
            (s.builder.openingCalls (s.newWidget builderName) s.viewport.current).map .call }) ∨
    (s.builder.widget ≠ none ∧
      s.attachBuilder.2 =
        { state := { s with nextSerial := s.nextSerial + 1 }
          effects := [.call ⟨s.newWidget builderName, .drop⟩] }) := by
  unfold attachBuilder
  dsimp only
  cases hb : s.builder.widget with
  | none =>
    rw [Screen.attach?_eq hb]
    exact .inl ⟨rfl, rfl⟩
  | some w =>
    rw [Screen.attach?_eq_none hb]
    exact .inr ⟨by simp, rfl⟩

/-- The answer to who attaches a widget to the builder console: it is taken if there is none. -/
theorem attachBuilder_answer (s : State) : s.attachBuilder.1 = s.builder.widget.isNone := by
  unfold attachBuilder
  dsimp only
  cases hb : s.builder.widget with
  | none =>
    rw [Screen.attach?_eq hb]
    rfl
  | some w =>
    rw [Screen.attach?_eq_none hb]
    rfl

/-- To take an instance out changes the roster and touches widgets only. -/
theorem forget_eq (s : State) (name : String) :
    ∃ calls, s.forget name = s.withRoster (s.roster.without name) calls := by
  unfold forget Roster.without
  cases s.roster.remove? name with
  | none => exact ⟨[], rfl⟩
  | some x => exact ⟨x.calls, rfl⟩

/-! ## What the acts without instances leave alone -/

/-- Whether a widget is the builder console's or was made on the way to another state. -/
def IsAside (s t : State) (w : Widget) : Prop :=
  s.builder.widget = some w ∨ s.nextSerial ≤ w.serial ∧ w.serial < t.nextSerial

/-- A step that leaves the instances alone: it touches no widget of theirs, takes no keyboard from
them and sends no input. -/
structure Apart (s : State) (t : Step) : Prop where
  roster : t.state.roster = s.roster
  alive : t.state.isAlive = s.isAlive
  serial : s.nextSerial ≤ t.state.nextSerial
  builder : ∀ w, t.state.builder.widget = some w → s.IsAside t.state w
  touched : ∀ c ∈ Effect.calls t.effects, c.action ≠ .focus ∧ s.IsAside t.state c.widget
  silent : ∀ name text, .terminalIn name text ∉ Effect.emitted t.effects

private theorem apart_of_eq {s : State} {t : Step} (hr : t.state.roster = s.roster)
    (ha : t.state.isAlive = s.isAlive) (hs : s.nextSerial ≤ t.state.nextSerial)
    (hb : t.state.builder = s.builder) (hc : Effect.calls t.effects = [])
    (he : ∀ name text, .terminalIn name text ∉ Effect.emitted t.effects) : s.Apart t where
  roster := hr
  alive := ha
  serial := hs
  builder w hw := .inl (hb ▸ hw)
  touched c h := by simp [hc] at h
  silent := he

private theorem apart_startCountdown (s : State) : s.Apart { state := s.startCountdown } := by
  obtain ⟨_, _, count, he⟩ := s.startCountdown_eq
  rw [he]
  exact apart_of_eq rfl rfl (Nat.le_add_right s.nextSerial count) rfl rfl (by simp)

private theorem apart_setConnected (s : State) (connected : Bool) :
    s.Apart (s.setConnected connected) := by
  obtain ⟨told, he⟩ := s.setConnected_eq connected
  rw [he]
  cases told with
  | none => exact apart_of_eq rfl rfl (Nat.le_refl _) rfl rfl (by simp)
  | some n => exact apart_of_eq rfl rfl (Nat.le_refl _) rfl rfl (by simp [Effect.emitted])

private theorem apart_settle (s : State) : s.Apart s.settle := by
  rw [settle_eq]
  cases s.isAlive with
  | false => exact apart_of_eq rfl rfl (Nat.le_refl _) rfl rfl (by simp)
  | true =>
    cases s.viewport.settle.1 with
    | none => exact apart_of_eq rfl rfl (Nat.le_refl _) rfl rfl (by simp)
    | some g => exact apart_of_eq rfl rfl (Nat.le_refl _) rfl rfl (by simp [Effect.emitted])

private theorem apart_builderOut (s : State) (data : Bytes) :
    s.Apart (s.performAside (.builderOut data)) where
  roster := rfl
  alive := rfl
  serial := Nat.le_refl _
  builder w hw := .inl (by rw [← hw]; exact (Screen.widget_deliver s.builder data).symm)
  touched c hc := by
    rw [performAside, Effect.calls_map_call] at hc
    obtain ⟨hw, hf⟩ := Screen.of_mem_deliver hc
    exact ⟨hf, .inl hw⟩
  silent name text := by simp [performAside]

private theorem apart_attachBuilder (s : State) : s.Apart s.attachBuilder.2 := by
  have hnew : s.IsAside { s with nextSerial := s.nextSerial + 1 } (s.newWidget builderName) :=
    .inr ⟨Nat.le_refl _, Nat.lt_succ_self _⟩
  rcases s.attachBuilder_cases with ⟨hb, he⟩ | ⟨-, he⟩
  · rw [he]
    refine ⟨rfl, rfl, Nat.le_succ _, ?_, ?_, by simp⟩
    · rintro w ⟨⟩
      exact hnew
    · intro c hc
      rw [Effect.calls_map_call] at hc
      obtain ⟨hw, hf⟩ := Screen.of_mem_openingCalls hc
      exact ⟨hf, hw ▸ hnew⟩
  · rw [he]
    refine ⟨rfl, rfl, Nat.le_succ _, fun w hw => .inl hw, ?_, ?_⟩
    · intro c hc
      cases List.mem_singleton.mp hc
      exact ⟨by simp, hnew⟩
    · simp [Effect.emitted]

/-- What has nothing to do with instances leaves them alone. -/
theorem performAside_apart (s : State) (a : Aside) : s.Apart (s.performAside a) := by
  cases a with
  | startCountdown => exact apart_startCountdown s
  | setConnected connected => exact apart_setConnected s connected
  | settle => exact apart_settle s
  | builderOut data => exact apart_builderOut s data
  | attachBuilder => exact apart_attachBuilder s
  | propose g => exact apart_of_eq rfl rfl (Nat.le_succ _) rfl rfl (by simp [performAside])
  | number count =>
    exact apart_of_eq rfl rfl (Nat.le_add_right _ _) rfl rfl (by simp [performAside])
  | tell n =>
    exact apart_of_eq rfl rfl (Nat.le_refl _) rfl rfl
      (by simp [performAside, State.tell, Effect.emitted])
  | ask r =>
    exact apart_of_eq rfl rfl (Nat.le_refl _) rfl rfl (by simp [performAside, Effect.emitted])
  | emitClose =>
    exact apart_of_eq rfl rfl (Nat.le_refl _) rfl rfl (by simp [performAside, emit, Effect.emitted])
  | _ => exact apart_of_eq rfl rfl (Nat.le_refl _) rfl rfl (by simp [performAside])

/-! ## What it is to take an instance out -/

theorem roster_forget (s : State) (name : String) :
    (s.forget name).state.roster = s.roster.without name := by
  obtain ⟨_, he⟩ := s.forget_eq name
  rw [he]
  rfl

theorem get?_forget (s : State) (name other : String) :
    (s.forget name).state.roster.get? other =
      if other = name then none else s.roster.get? other := by
  rw [roster_forget, Roster.get?_without]

/-- The selection moves only if the selected instance is taken out. -/
theorem selected_forget {s : State} {name : String} (h : s.roster.selected ≠ some name) :
    (s.forget name).state.roster.selected = s.roster.selected := by
  rw [roster_forget, Roster.selected_without h]

/-! ## What it is to send input -/

theorem flush_eq_of_none {s : State} {name : String} (h : s.roster.get? name = none) :
    s.flush name = { state := s } := by
  unfold flush
  rw [h]

/-- What can be sent of an instance's input is sent under its name, while the session is alive. -/
theorem flush_eq {s : State} {name : String} {i : Instance} (h : s.roster.get? name = some i) :
    s.flush name =
      { state := s.update name fun _ => i.takeTyped.2
        effects :=
          if s.isAlive then (i.takeTyped.1.map fun text => .emit (.terminalIn i.name text)).toList
          else [] } := by
  unfold flush
  rw [h]
  dsimp only
  cases i.takeTyped.1 with
  | none => simp [update]
  | some text => cases s.isAlive <;> simp [update, emit]

/-! ## Coherence -/

/-- What ties the parts of a session together. -/
structure Coherent (s : State) : Prop where
  roster : s.roster.Consistent
  /-- An instance's widget goes by its name, is older than the next one, and is not the builder
  console's. -/
  attached : ∀ name i w, s.roster.get? name = some i → i.screen.widget = some w →
    w.name = name ∧ w.serial < s.nextSerial ∧ s.builder.widget ≠ some w
  drained : ∀ name i, s.roster.get? name = some i → i.screen.Drained
  builder : ∀ w, s.builder.widget = some w → w.serial < s.nextSerial

namespace Coherent

theorem initial (id : String) (setup : Setup) : (initial id setup).Coherent where
  roster := Roster.Consistent.empty
  attached _ _ _ h := by simp [State.initial, Roster.get?] at h
  drained _ _ h := by simp [State.initial, Roster.get?] at h
  builder _ h := by simp [State.initial] at h

/-- Two instances have no widget in common. -/
theorem eq_of_widget {s : State} (h : s.Coherent) {m n : String} {i j : Instance} {w : Widget}
    (hi : s.roster.get? m = some i) (hj : s.roster.get? n = some j)
    (hv : i.screen.widget = some w) (hw : j.screen.widget = some w) : m = n :=
  (h.attached m i w hi hv).1.symm.trans (h.attached n j w hj hw).1

/-- What attaches no widget to an instance keeps the session coherent. -/
theorem of_frame {s t : State} (h : s.Coherent) (hr : t.roster.Consistent)
    (hs : s.nextSerial ≤ t.nextSerial)
    (hb : ∀ w, t.builder.widget = some w → s.IsAside t w)
    (hg : ∀ name j, t.roster.get? name = some j → j.screen.Drained ∧
      ∀ w, j.screen.widget = some w →
        ∃ i, s.roster.get? name = some i ∧ i.screen.widget = some w) : t.Coherent where
  roster := hr
  attached name j w hj hw := by
    obtain ⟨i, hi, hv⟩ := (hg name j hj).2 w hw
    obtain ⟨hn, hl, hne⟩ := h.attached name i w hi hv
    have hlt : w.serial < t.nextSerial := by omega
    refine ⟨hn, hlt, ?_⟩
    intro he
    rcases hb w he with ho | ho
    · exact hne ho
    · omega
  drained name j hj := (hg name j hj).1
  builder w hw := by
    rcases hb w hw with ho | ho
    · have hl := h.builder w ho
      omega
    · exact ho.2

/-- What changes the roster alone, and attaches no widget, keeps the session coherent. -/
theorem withRoster {s : State} (h : s.Coherent) {roster : Roster} (hr : roster.Consistent)
    (hg : ∀ name j, roster.get? name = some j → j.screen.Drained ∧
      ∀ w, j.screen.widget = some w →
        ∃ i, s.roster.get? name = some i ∧ i.screen.widget = some w) :
    Coherent { s with roster } :=
  h.of_frame hr (Nat.le_refl _) (fun _ hw => .inl hw) hg

/-- A record attaches no widget. -/
private theorem upsert {s : State} (h : s.Coherent) (record : Record) :
    Coherent { s with roster := s.roster.upsert record } := by
  apply h.withRoster (h.roster.upsert record)
  intro name j hj
  rw [Roster.get?_upsert] at hj
  split at hj
  · next hn =>
    subst hn
    cases hj
    rw [Roster.screen_learned]
    cases hg : s.roster.get? record.name with
    | none => exact ⟨fun _ _ => rfl, fun w hw => by simp at hw⟩
    | some i => exact ⟨h.drained _ i hg, fun w hw => ⟨i, rfl, hw⟩⟩
  · exact ⟨h.drained name j hj, fun w hw => ⟨j, hj, hw⟩⟩

/-- A change of an instance that leaves its screen alone attaches no widget. -/
theorem update {s : State} (h : s.Coherent) (name : String) {f : Instance → Instance}
    (hf : ∀ i, s.roster.get? name = some i →
      (f i).toRecord = i.toRecord ∧ (f i).screen = i.screen) : (s.update name f).Coherent := by
  have hr : (s.roster.update name f).Consistent := by
    apply h.roster.update name
    intro i hi
    have hrecord := (hf i hi).1
    exact ⟨congrArg Record.name hrecord, congrArg Record.hostname hrecord⟩
  apply h.withRoster hr
  intro other j hj
  rw [Roster.get?_update] at hj
  split at hj
  · next hn =>
    subst hn
    obtain ⟨i, hi, rfl⟩ := Option.map_eq_some_iff.mp hj
    rw [(hf i hi).2]
    exact ⟨h.drained other i hi, fun w hw => ⟨i, hi, hw⟩⟩
  · exact ⟨h.drained other j hj, fun w hw => ⟨j, hj, hw⟩⟩

private theorem forget {s : State} (h : s.Coherent) (name : String) :
    (s.forget name).state.Coherent := by
  unfold State.forget
  cases hr : s.roster.remove? name with
  | none => exact h
  | some x =>
    apply h.withRoster (h.roster.remove? hr)
    intro other j hj
    rw [Roster.get?_rest hr] at hj
    split at hj
    · cases hj
    · exact ⟨h.drained other j hj, fun w hw => ⟨j, hj, hw⟩⟩

private theorem route {s : State} (h : s.Coherent) (name : String) (data : Bytes) :
    (s.perform (.route name data)).state.Coherent := by
  apply h.withRoster (h.roster.route name data)
  intro other j hj
  rw [Roster.get?_route] at hj
  split at hj
  · next hn =>
    subst hn
    cases hj
    simp only [Screen.widget_deliver]
    cases hg : s.roster.get? other with
    | none =>
      constructor
      · exact Screen.drained_deliver (fun _ _ => rfl) data
      · intro w hw
        simp [Instance.ofRecord] at hw
    | some i =>
      exact ⟨Screen.drained_deliver (h.drained other i hg) data, fun w hw => ⟨i, rfl, hw⟩⟩
  · exact ⟨h.drained other j hj, fun w hw => ⟨j, hj, hw⟩⟩

private theorem resizeAll {s : State} (h : s.Coherent) (g : Geometry) :
    (s.resizeAll g).state.Coherent := by
  refine h.of_frame (h.roster.resizeAll g) (Nat.le_refl _) ?_ ?_
  · intro w hw
    left
    rw [← hw]
    exact (Screen.widget_resize s.builder g).symm
  · intro name j hj
    have hm := (Roster.get?_resizeAll s.roster g name).symm.trans hj
    obtain ⟨i, hi, rfl⟩ := Option.map_eq_some_iff.mp hm
    exact ⟨Screen.drained_resize i.screen g, fun w hw => ⟨i, hi, by simpa using hw⟩⟩

private theorem moveTo {s : State} (h : s.Coherent) (moment : Nat) :
    (Loop.moveState moment s).Coherent := by
  refine h.of_frame (h.roster.moveTo moment) (Nat.le_refl _) (fun _ hw => .inl hw) ?_
  intro name j hj
  have hm := (Roster.get?_moveTo s.roster moment name).symm.trans hj
  obtain ⟨i, hi, rfl⟩ := Option.map_eq_some_iff.mp hm
  exact ⟨h.drained name i hi, fun w hw => ⟨i, hi, hw⟩⟩

private theorem flush {s : State} (h : s.Coherent) (name : String) :
    (s.flush name).state.Coherent := by
  cases hi : s.roster.get? name with
  | none =>
    rw [flush_eq_of_none hi]
    exact h
  | some i =>
    rw [flush_eq hi]
    apply h.update name
    intro j hj
    rw [hi] at hj
    cases hj
    exact Instance.takeTyped_frame i

private theorem terminate {s : State} (h : s.Coherent) : s.terminate.state.Coherent := by
  unfold State.terminate
  split
  · refine h.of_frame Roster.Consistent.empty (Nat.le_refl _) ?_ ?_
    · intro w hw
      simp [Screen.release] at hw
    · intro name j hj
      simp [Roster.get?] at hj
  · exact h

private theorem select {s : State} (h : s.Coherent) {name : String} {i : Instance}
    (hi : s.roster.get? name = some i) :
    Coherent { s with roster := { s.roster with selected := some name } } := by
  apply h.withRoster (h.roster.select (Roster.contains_of_get? hi))
  intro other j hj
  exact ⟨h.drained other j hj, fun w hw => ⟨j, hj, hw⟩⟩

/-- A widget that is opened is new. -/
private theorem openedRoster {s : State} (h : s.Coherent) {name : String} {i : Instance}
    (hi : s.roster.get? name = some i) (viewport : Viewport) (count : Nat) :
    Coherent
      { s with
        roster := s.openedRoster name i
        viewport
        nextSerial := s.nextSerial + 2 + count } where
  roster := by
    have hs := h.roster.select (Roster.contains_of_get? hi)
    apply hs.update name
    intro j hj
    have he : i = j := Option.some.inj (hi.symm.trans hj)
    subst he
    exact ⟨rfl, rfl⟩
  attached other j w hj hw := by
    have hj := (get?_openedRoster s name other i).symm.trans hj
    split at hj
    · next hn =>
      subst hn
      obtain ⟨-, -, rfl⟩ := Option.map_eq_some_iff.mp hj
      cases hw
      have hlt : s.nextSerial < s.nextSerial + 2 + count := by omega
      refine ⟨rfl, hlt, ?_⟩
      intro hb
      exact Nat.lt_irrefl _ (h.builder _ hb)
    · obtain ⟨hn, hl, hb⟩ := h.attached other j w hj hw
      have hlt : w.serial < s.nextSerial + 2 + count := by omega
      exact ⟨hn, hlt, hb⟩
  drained other j hj := by
    have hj := (get?_openedRoster s name other i).symm.trans hj
    split at hj
    · obtain ⟨-, -, rfl⟩ := Option.map_eq_some_iff.mp hj
      exact Screen.drained_attached _
    · exact h.drained other j hj
  builder w hw := by
    have hl := h.builder w hw
    show w.serial < s.nextSerial + 2 + count
    omega

private theorem display {s : State} (h : s.Coherent) (name : String) :
    (s.perform (.display name)).state.Coherent := by
  rcases display_cases s name with ⟨i, w, -, hi, -, hp⟩ | ⟨i, viewport, count, -, hi, -, hp⟩ |
    ⟨-, hp⟩
  · rw [hp]
    exact h.select hi
  · rw [hp]
    exact h.openedRoster hi viewport count
  · rw [hp]
    exact h

/-- Every act keeps the session coherent. -/
theorem perform {s : State} (h : s.Coherent) (a : Act) : (s.perform a).state.Coherent := by
  cases a with
  | learn record => exact h.upsert record
  | expect key => exact (h.upsert (Record.named key)).update key fun _ _ => ⟨rfl, rfl⟩
  | forget name => exact h.forget name
  | display name => exact h.display name
  | route name data => exact h.route name data
  | resizeAll g => exact h.resizeAll g
  | note name n => exact h.update name fun i _ => ⟨(n.applyTo_eq i).1, (n.applyTo_eq i).2.1⟩
  | type name data => exact h.update name fun _ _ => ⟨rfl, rfl⟩
  | flush name => exact h.flush name
  | terminate => exact h.terminate
  | moveTo moment => exact h.moveTo moment
  | aside a =>
    have ha := performAside_apart s a
    apply h.of_frame (t := (s.performAside a).state) (ha.roster ▸ h.roster) ha.serial ha.builder
    intro name j hj
    rw [ha.roster] at hj
    exact ⟨h.drained name j hj, fun w hw => ⟨j, hj, hw⟩⟩

theorem performAll {s : State} (h : s.Coherent) (as : List Act) :
    (s.performAll as).state.Coherent :=
  performAll_induction h (fun _ a h => h.perform a) as

/-- Whatever reaches the session, it stays coherent. -/
theorem respond {s : State} (h : s.Coherent) (x : Stimulus) : (s.respond x).state.Coherent := by
  rw [respond_eq h.roster]
  exact h.performAll _

theorem run {s : State} (h : s.Coherent) (xs : List Stimulus) : (s.run xs).state.Coherent :=
  run_induction h (fun _ x h => h.respond x) xs

end Coherent

/-- A session is coherent after every run. -/
theorem coherent_run (id : String) (setup : Setup) (xs : List Stimulus) :
    ((initial id setup).run xs).state.Coherent :=
  (Coherent.initial id setup).run xs

/-- So it is whenever the event loop stops. -/
theorem coherent_loop {σ ω : Type} {l : Loop σ ω} (h : l.engine.Behaves)
    (hs : l.engine.state.Coherent) (arrivals : List (Nat × Loop.Arrival)) (stop : Nat) :
    (l.run arrivals stop).loop.engine.state.Coherent := by
  obtain ⟨xs, hrun, -⟩ := Loop.exists_run h arrivals stop
  rw [hrun]
  exact hs.run xs

end State
end TermSync.Session

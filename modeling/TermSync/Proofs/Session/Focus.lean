import TermSync.Proofs.Session.Screens

/-!
# Where the keyboard is

To display an instance selects it and gives its widget the keyboard. When the selected instance is
taken out, another one is selected; it gets the keyboard only if it is displayed, and it is not if
it has a widget already and nothing else has to be shown. The keyboard then stays with the widget
that was dropped, until some instance is displayed again.

Main statements: `respond_focus` (what a response does to the keyboard) and
`focus_on_selection_iff` (when the selected instance has it).
-/

namespace TermSync.Terminal

/-- The widget that got the keyboard last. -/
def lastFocus (calls : List Call) : Option Widget :=
  (calls.filterMap fun c => if c.action = .focus then some c.widget else none).getLast?

@[simp] theorem lastFocus_nil : lastFocus [] = none := rfl

theorem lastFocus_append (as bs : List Call) :
    lastFocus (as ++ bs) = (lastFocus bs).or (lastFocus as) := by
  simp [lastFocus, List.getLast?_append]

theorem lastFocus_eq_none_iff (calls : List Call) :
    lastFocus calls = none ↔ ∀ c ∈ calls, c.action ≠ .focus := by
  simp [lastFocus]

end TermSync.Terminal

namespace TermSync.Session

open Roster (Instance Record)
open Terminal (Call Screen Widget lastFocus lastFocus_append lastFocus_eq_none_iff)

namespace State

/-! ## How the keyboard stands -/

/-- The keyboard is with the widget of the selected instance, if that has one, and with no other
instance's. -/
structure OnSelection (s : State) (focus : Option Widget) : Prop where
  selected : ∀ name w, s.roster.selected = some name → (s.screen name).widget = some w →
    focus = some w
  only : ∀ name w, (s.screen name).widget = some w → focus = some w →
    s.roster.selected = some name

/-- The keyboard is with no instance's widget. -/
def Nowhere (s : State) (focus : Option Widget) : Prop :=
  ∀ name w, (s.screen name).widget = some w → focus ≠ some w

/-- No instance is selected or gets a widget on the way to another state. -/
structure Fades (s t : State) : Prop where
  selected : t.roster.selected = s.roster.selected
  widget : ∀ name w, (t.screen name).widget = some w → (s.screen name).widget = some w

theorem Fades.refl (s : State) : s.Fades s := ⟨rfl, fun _ _ h => h⟩

theorem Fades.trans {s t u : State} (h : s.Fades t) (h' : t.Fades u) : s.Fades u :=
  ⟨h'.selected.trans h.selected, fun name w hw => h.widget name w (h'.widget name w hw)⟩

theorem OnSelection.fades {s t : State} {focus : Option Widget} (h : s.OnSelection focus)
    (hf : s.Fades t) : t.OnSelection focus where
  selected name w hs hw := h.selected name w (hf.selected ▸ hs) (hf.widget name w hw)
  only name w hw he := hf.selected ▸ h.only name w (hf.widget name w hw) he

theorem Nowhere.fades {s t : State} {focus : Option Widget} (h : s.Nowhere focus)
    (hf : s.Fades t) : t.Nowhere focus :=
  fun name w hw => h name w (hf.widget name w hw)

/-! ## Acts -/

/-- An instance that is displayed is selected, and its widget gets the keyboard. -/
theorem perform_display_focus {s : State} (h : s.Coherent) {name : String} {i : Instance}
    (ha : s.isAlive = true) (hi : s.roster.get? name = some i) :
    ∃ w, lastFocus (Effect.calls (s.perform (.display name)).effects) = some w ∧
      (s.perform (.display name)).state.OnSelection (some w) := by
  have hc := h.perform (.display name)
  have hon {w : Widget} (hs : (s.perform (.display name)).state.roster.selected = some name)
      (hw : ((s.perform (.display name)).state.screen name).widget = some w) :
      (s.perform (.display name)).state.OnSelection (some w) := by
    constructor
    · intro n v hn hv
      rw [hs] at hn
      cases hn
      rw [← hw, hv]
    · intro n v hv he
      cases he
      rw [hs, hc.eq_of_screen hw hv]
  rcases display_cases s name with ⟨j, w, -, hj, hw, hd⟩ | ⟨j, _, _, -, hj, hw, hd⟩ | ⟨hn, -⟩
  · refine ⟨w, by rw [hd]; rfl, hon (by rw [hd]) ?_⟩
    rw [hd]
    exact (congrArg Screen.widget (screen_of_get? hj)).trans hw
  · refine ⟨s.newWidget name, ?_, hon (by rw [hd]; rfl) ?_⟩
    · rw [hd, Effect.calls_make, Effect.calls_map_call, openingCalls, lastFocus_append]
      rfl
    · have hg := get?_openedRoster s name name j
      rw [if_pos rfl, hj, Option.map_some] at hg
      rw [hd]
      exact congrArg (fun i => ((i.map Instance.screen).getD {}).widget) hg
  · rcases hn with hn | hn
    · rw [ha] at hn
      cases hn
    · rw [hi] at hn
      cases hn

/-- No other act gives anything the keyboard. -/
theorem lastFocus_perform (s : State) {a : Act} (ha : ∀ name, a ≠ .display name) :
    lastFocus (Effect.calls (s.perform a).effects) = none := by
  rw [lastFocus_eq_none_iff]
  intro c hc hf
  obtain ⟨name, he⟩ := (of_mem_calls hc).2 hf
  exact ha name he

theorem selected_perform (s : State) {a : Act} (ha : ∀ name, a ≠ .display name)
    (hr : ∀ name, a.removes name = false) :
    (s.perform a).state.roster.selected = s.roster.selected := by
  cases a with
  | forget n => simpa [Act.removes] using hr n
  | display n => exact absurd rfl (ha n)
  | terminate => cases hr ""
  | learn record => exact Roster.selected_upsert s.roster record
  | expect key => exact Roster.selected_insertPlaceholder s.roster key
  | route n data => exact Roster.selected_route s.roster n data
  | flush n =>
    cases hi : s.roster.get? n with
    | none => rw [perform, flush_eq_of_none hi]
    | some i =>
      rw [perform, flush_eq hi]
      rfl
  | aside a => rw [perform, (performAside_apart s a).roster]
  | _ => rfl

/-- No other act gives an instance a widget. -/
theorem widget_perform (s : State) {a : Act} (ha : ∀ name, a ≠ .display name) {name : String}
    (hr : a.removes name = false) :
    ((s.perform a).state.screen name).widget = (s.screen name).widget := by
  cases a with
  | display n => exact absurd rfl (ha n)
  | route n data =>
    rw [screen_route]
    split
    · exact Screen.widget_deliver (s.screen name) data
    · rfl
  | resizeAll g =>
    rw [perform, screen_resizeAll]
    exact Screen.widget_resize (s.screen name) g
  | type n data => rw [screen_type]
  | flush n => rw [perform, screen_flush]
  | terminate => cases hr
  | _ => exact congrArg Screen.widget (held_perform holding_screen s rfl hr)

/-- What an act does to the keyboard that takes nothing out. -/
theorem perform_focus {s : State} (h : s.Coherent) {a : Act} (hr : ∀ name, a.removes name = false) :
    (lastFocus (Effect.calls (s.perform a).effects) = none ∧ s.Fades (s.perform a).state) ∨
      ∃ w, lastFocus (Effect.calls (s.perform a).effects) = some w ∧
        (s.perform a).state.OnSelection (some w) := by
  by_cases hd : ∃ name, a = .display name
  · obtain ⟨name, rfl⟩ := hd
    rcases display_cases s name with ⟨i, _, ha, hi, -⟩ | ⟨i, _, _, ha, hi, -⟩ | ⟨-, hp⟩
    · exact .inr (perform_display_focus h ha hi)
    · exact .inr (perform_display_focus h ha hi)
    · rw [hp]
      exact .inl ⟨rfl, Fades.refl s⟩
  · have ha (name : String) : a ≠ .display name := fun he => hd ⟨name, he⟩
    have hwidget : ∀ name w, ((s.perform a).state.screen name).widget = some w →
        (s.screen name).widget = some w := by
      intro name w hw
      rw [← hw, widget_perform s ha (hr name)]
    exact .inl ⟨lastFocus_perform s ha, selected_perform s ha hr, hwidget⟩

/-- What acts do to the keyboard that take nothing out. -/
theorem performAll_focus {s : State} (h : s.Coherent) {as : List Act}
    (hr : ∀ a ∈ as, ∀ name, a.removes name = false) :
    (lastFocus (Effect.calls (s.performAll as).effects) = none ∧
        s.Fades (s.performAll as).state) ∨
      ∃ w, lastFocus (Effect.calls (s.performAll as).effects) = some w ∧
        (s.performAll as).state.OnSelection (some w) := by
  induction as generalizing s with
  | nil => exact .inl ⟨rfl, Fades.refl s⟩
  | cons a as ih =>
    have hfirst := perform_focus h (hr a List.mem_cons_self)
    have hrest := ih (h.perform a) fun b hb => hr b (List.mem_cons_of_mem a hb)
    rw [performAll_cons, Step.andThen, Effect.calls_append, lastFocus_append]
    -- What the last of them does to the keyboard stands; if none of them does, the first decides.
    rcases hrest with ⟨hn, hf⟩ | ⟨w, hw, ho⟩
    · rw [hn, Option.none_or]
      rcases hfirst with ⟨hn', hf'⟩ | ⟨w, hw, ho⟩
      · exact .inl ⟨hn', hf'.trans hf⟩
      · exact .inr ⟨w, hw, ho.fades hf⟩
    · rw [hw]
      exact .inr ⟨w, rfl, ho⟩

end State

/-- Whether a stimulus takes the instance with a name out and leaves it to the roster which one is
selected next. -/
def Stimulus.dismisses (name : String) : Stimulus → Bool
  | .inbound (.instanceDelete n) => n == name
  | .event (.created key (.error _)) => key == name
  | .event (.deleted n (.ok ())) => n == name
  | _ => false

theorem Stimulus.removes_of_dismisses {name : String} {x : Stimulus}
    (h : x.dismisses name = true) : x.removes name = true := by
  unfold dismisses at h
  split at h
  · exact h
  · exact h
  · exact h
  · cases h

namespace State

/-! ## Dismissals -/

/-- Whether the selected instance has a widget, and no confirmed instance has to be shown in its
place. -/
def isShown (s : State) : Bool :=
  match s.roster.selected? with
  | some i =>
    i.screen.isAttached && (!i.provisional || s.roster.instances.all fun j => j.provisional)
  | none => false

/-- Whether the selected instance loses the keyboard to none: it is taken out, and the one that is
selected next has a widget already. -/
def loses (s : State) (x : Stimulus) : Bool :=
  s.isAlive &&
    match s.roster.selected with
    | some name => x.dismisses name && (s.forget name).state.isShown
    | none => false

private theorem find?_confirmed_eq_none (r : Roster) :
    (r.instances.find? fun i => !i.provisional) = none ↔
      (r.instances.all fun i => i.provisional) = true := by
  simp

theorem unshown?_of_isShown {s : State} (h : s.isShown = true) : s.unshown? = none := by
  unfold isShown at h
  unfold unshown?
  cases hs : s.roster.selected? with
  | none => simp [hs] at h
  | some i =>
    simp only [hs, Bool.and_eq_true, Bool.or_eq_true, Bool.not_eq_true'] at h
    cases hp : i.provisional with
    | true =>
      simp only [hp, if_true]
      exact (find?_confirmed_eq_none _).mpr (h.2.resolve_left (by simp [hp]))
    | false => simp [hp, h.1]

theorem isShown_of_unshown? {s : State} (h : s.unshown? = none) {i : Instance}
    (hi : s.roster.selected? = some i) (ha : i.screen.isAttached = true) : s.isShown = true := by
  unfold unshown? at h
  unfold isShown
  simp only [hi, ha, Bool.true_and] at h ⊢
  cases hp : i.provisional with
  | true =>
    rw [hp, if_pos rfl] at h
    simpa using (find?_confirmed_eq_none _).mp h
  | false => rfl

/-- What has to be shown is there. -/
theorem get?_of_unshown? {s : State} (h : s.Coherent) {i : Instance} (hu : s.unshown? = some i) :
    s.roster.get? i.name = some i := by
  have hfirst (hf : (s.roster.instances.find? fun i => !i.provisional) = some i) :
      s.roster.get? i.name = some i :=
    h.roster.get?_of_mem_instances (List.mem_of_find?_eq_some hf)
  unfold unshown? at hu
  cases hs : s.roster.selected? with
  | none =>
    rw [hs] at hu
    exact hfirst hu
  | some j =>
    simp only [hs] at hu
    split at hu
    · exact hfirst hu
    · split at hu
      · cases hu
      · cases hu
        obtain ⟨name, -, hg⟩ := Option.bind_eq_some_iff.mp hs
        rwa [h.roster.named name i hg]

/-- A dismissal takes the instance out, says what there is to say, and shows another instance if
that has to be shown. -/
theorem acts_of_dismisses {s : State} (ha : s.isAlive = true) {name : String} {x : Stimulus}
    (hx : x.dismisses name = true) :
    ∃ as, s.acts x = .forget name :: (as ++ (s.forget name).state.showActs) ∧
      ∀ a ∈ as, ∃ b, a = .aside b := by
  unfold Stimulus.dismisses at hx
  split at hx
  · cases eq_of_beq hx
    exact ⟨[], by rw [acts, if_pos ha]; rfl, by simp⟩
  · cases eq_of_beq hx
    exact ⟨[.aside _], by rw [acts, eventActs, if_pos ha]; rfl, by simp⟩
  · cases eq_of_beq hx
    exact ⟨[], by rw [acts, eventActs, if_pos ha]; rfl, by simp⟩
  · cases hx

theorem performAll_asides {s : State} {as : List Act} (h : ∀ a ∈ as, ∃ b, a = .aside b) :
    (s.performAll as).state.roster = s.roster ∧
      (s.performAll as).state.isAlive = s.isAlive ∧
      lastFocus (Effect.calls (s.performAll as).effects) = none := by
  induction as generalizing s with
  | nil => exact ⟨rfl, rfl, rfl⟩
  | cons a as ih =>
    obtain ⟨b, rfl⟩ := h a List.mem_cons_self
    obtain ⟨hr, ha, hf⟩ := ih (s := (s.perform (.aside b)).state) fun c hc =>
      h c (List.mem_cons_of_mem _ hc)
    have hb := performAside_apart s b
    have hnone : lastFocus (Effect.calls (s.perform (.aside b)).effects) = none :=
      lastFocus_perform s (by simp)
    refine ⟨hr.trans hb.roster, ha.trans hb.alive, ?_⟩
    rw [performAll_cons, Step.andThen, Effect.calls_append, lastFocus_append, hf, hnone,
      Option.none_or]

/-- A dismissal gives no instance the keyboard exactly if none has to be shown. -/
theorem focus_of_dismisses {s : State} (h : s.Coherent) (ha : s.isAlive = true) {name : String}
    {x : Stimulus} (hx : x.dismisses name = true) :
    lastFocus (Effect.calls (s.respond x).effects) = none ↔
      (s.forget name).state.unshown? = none := by
  obtain ⟨as, hacts, has⟩ := acts_of_dismisses ha hx
  let u := (s.forget name).state
  have hcu : u.Coherent := h.perform (.forget name)
  have hau : u.isAlive = true := (isAlive_forget s name).trans ha
  have hforget : lastFocus (Effect.calls (s.forget name).effects) = none :=
    lastFocus_perform s (a := .forget name) (by simp)
  obtain ⟨hroster, halive, hnone⟩ := performAll_asides (s := u) has
  have hsplit : lastFocus (Effect.calls (s.respond x).effects) =
      lastFocus (Effect.calls ((u.performAll as).state.performAll u.showActs).effects) := by
    have he : (s.respond x).effects = (s.forget name).effects ++
        ((u.performAll as).effects ++
          ((u.performAll as).state.performAll u.showActs).effects) := by
      rw [respond_eq h.roster, hacts, performAll_cons]
      simp only [Step.andThen, performAll_append]
      rfl
    rw [he, Effect.calls_append, Effect.calls_append, lastFocus_append, lastFocus_append, hforget,
      hnone, Option.or_none, Option.or_none]
  rw [hsplit]
  unfold showActs
  cases hu : u.unshown? with
  | none => simp [u]
  | some i =>
    have hi : (u.performAll as).state.roster.get? i.name = some i :=
      hroster ▸ get?_of_unshown? hcu hu
    obtain ⟨w, hw, -⟩ := perform_display_focus (hcu.performAll as) (halive.trans hau) hi
    rw [performAll_singleton, hw]
    simp

/-! ## Responses -/

/-- Where the keyboard is, given whether the selected instance has kept it. -/
def Keyboard (s : State) (focus : Option Widget) : Bool → Prop
  | true => s.OnSelection focus
  | false => s.Nowhere focus

theorem Keyboard.fades {s t : State} {focus : Option Widget} {kept : Bool}
    (h : s.Keyboard focus kept) (hf : s.Fades t) : t.Keyboard focus kept := by
  cases kept with
  | true => exact OnSelection.fades h hf
  | false => exact Nowhere.fades h hf

theorem Keyboard.only {s : State} {focus : Option Widget} {kept : Bool}
    (h : s.Keyboard focus kept) {name : String} {w : Widget}
    (hw : (s.screen name).widget = some w) (hf : focus = some w) :
    s.roster.selected = some name := by
  cases kept with
  | true => exact OnSelection.only h name w hw hf
  | false => exact absurd hf (h name w hw)

/-- Without instances there is nothing to be said. -/
theorem keyboard_of_empty {s : State} (h : s.roster = {}) (focus : Option Widget) (kept : Bool) :
    s.Keyboard focus kept := by
  have hnone (name : String) : (s.screen name).widget = none := by
    rw [screen, held, h]
    rfl
  cases kept with
  | true =>
    constructor
    · intro name w hs
      rw [h] at hs
      cases hs
    · intro name w hw
      rw [hnone] at hw
      cases hw
  | false =>
    intro name w hw
    rw [hnone] at hw
    cases hw

/-- To take another instance out leaves the selection alone. -/
theorem fades_forget {s : State} {name : String} (hs : s.roster.selected ≠ some name) :
    s.Fades (s.forget name).state where
  selected := selected_forget hs
  widget n w hw := by
    obtain ⟨i, hi, hv⟩ := exists_of_screen hw
    rw [get?_forget] at hi
    split at hi
    · cases hi
    · rw [screen_of_get? hi, hv]

/-- When the selected instance is taken out no other one has the keyboard. -/
theorem nowhere_forget {s : State} {name : String} (hs : s.roster.selected = some name)
    {focus : Option Widget} {kept : Bool} (hk : s.Keyboard focus kept) :
    (s.forget name).state.Nowhere focus := by
  intro n w hw he
  obtain ⟨i, hi, hv⟩ := exists_of_screen hw
  rw [get?_forget] at hi
  split at hi
  · cases hi
  · next hne =>
    have hn := hk.only (by rw [screen_of_get? hi, hv]) he
    rw [hs] at hn
    cases hn
    exact hne rfl

/-- A stimulus that takes an instance out dismisses it, brings another one in its place, or ends the
session. -/
private theorem removes_cases {name : String} {x : Stimulus} (hx : x.removes name = true) :
    x = .inbound .sessionEnd ∨ x.dismisses name = true ∨
      ∃ record, x = .event (.created name (.ok record)) := by
  unfold Stimulus.removes at hx
  split at hx
  · exact .inr (.inl hx)
  · exact .inl rfl
  · next key answer =>
    cases answer with
    | ok record =>
      cases eq_of_beq hx
      exact .inr (.inr ⟨record, rfl⟩)
    | error e => exact .inr (.inl hx)
  · exact .inr (.inl hx)
  · cases hx

/-- An instance that comes in the place of a placeholder is displayed. -/
private theorem lastFocus_created {s : State} (h : s.Coherent) (ha : s.isAlive = true)
    (key : String) (record : Record) :
    lastFocus (Effect.calls (s.respond (.event (.created key (.ok record)))).effects) ≠ none := by
  have hu := (isAlive_forget s key).trans ha
  have hc := (h.perform (.forget key)).perform (.learn record)
  have hg := Roster.get?_upsert_self (s.perform (.forget key)).state.roster record
  obtain ⟨w, hw, -⟩ := perform_display_focus hc hu hg
  rw [respond_eq h.roster, acts, eventActs, if_pos ha, createdActs]
  simp [performAll_cons, Step.andThen, lastFocus_append, hw]

/-- A response that takes the selected instance out and gives none the keyboard leaves one selected
that has a widget only if it loses the keyboard. -/
private theorem loses_of_removes {s : State} (h : s.Coherent) (ha : s.isAlive = true)
    {name : String} (hs : s.roster.selected = some name) {x : Stimulus}
    (hx : x.removes name = true) (hend : x ≠ .inbound .sessionEnd)
    (hf : lastFocus (Effect.calls (s.respond x).effects) = none) {n : String} {w : Widget}
    (hn : (s.forget name).state.roster.selected = some n)
    (hw : ((s.forget name).state.screen n).widget = some w) : s.loses x = true := by
  rcases removes_cases hx with hx | hx | ⟨record, rfl⟩
  · exact absurd hx hend
  · obtain ⟨i, hi, hv⟩ := exists_of_screen hw
    have hsel : (s.forget name).state.roster.selected? = some i := by
      rw [Roster.selected?, hn]
      exact hi
    have hshown := isShown_of_unshown? ((focus_of_dismisses h ha hx).mp hf) hsel
      (by rw [Screen.isAttached, hv]; rfl)
    simp [loses, ha, hs, hx, hshown]
  · exact absurd hf (lastFocus_created h ha name record)

/-- A response that loses the keyboard takes the selected instance out, and gives none the
keyboard. -/
theorem of_loses {s : State} (h : s.Coherent) {x : Stimulus} (hx : s.loses x = true) :
    ∃ name, s.roster.selected = some name ∧ x.removes name = true ∧
      lastFocus (Effect.calls (s.respond x).effects) = none := by
  simp only [loses, Bool.and_eq_true] at hx
  obtain ⟨ha, hx⟩ := hx
  cases hs : s.roster.selected with
  | none => simp [hs] at hx
  | some name =>
    simp only [hs, Bool.and_eq_true] at hx
    exact ⟨name, rfl, Stimulus.removes_of_dismisses hx.1,
      (focus_of_dismisses h ha hx.1).mpr (unshown?_of_isShown hx.2)⟩

/-- A response that does not take the selected instance out does not lose the keyboard. -/
theorem loses_eq_false {s : State} (h : s.Coherent) {x : Stimulus}
    (hx : ∀ name, s.roster.selected = some name → x.removes name = false) :
    s.loses x = false := by
  rw [← Bool.not_eq_true]
  intro hl
  obtain ⟨name, hs, hr, -⟩ := of_loses h hl
  rw [hx name hs] at hr
  cases hr

/-- The keyboard after a response that takes an instance out. -/
private theorem respond_focus_of_removes {s : State} (h : s.Coherent) (ha : s.isAlive = true)
    {focus : Option Widget} {kept : Bool} (hk : s.Keyboard focus kept) {x : Stimulus}
    (hend : x ≠ .inbound .sessionEnd) {n : String} {as : List Act}
    (hacts : s.acts x = .forget n :: as) (hn : ∀ m, x.removes m = (n == m))
    (hr : ∀ a ∈ as, ∀ m, a.removes m = false) :
    (s.respond x).state.Keyboard ((lastFocus (Effect.calls (s.respond x).effects)).or focus)
      ((lastFocus (Effect.calls (s.respond x).effects)).isSome || kept && !s.loses x) := by
  have hsplit : s.respond x = (s.forget n).andThen fun u => u.performAll as := by
    rw [respond_eq h.roster, hacts]
    rfl
  have hcalls : lastFocus (Effect.calls (s.respond x).effects) =
      lastFocus (Effect.calls ((s.forget n).state.performAll as).effects) := by
    have hforget : lastFocus (Effect.calls (s.forget n).effects) = none :=
      lastFocus_perform s (a := .forget n) (by simp)
    rw [hsplit, Step.andThen, Effect.calls_append, lastFocus_append, hforget, Option.or_none]
  rcases performAll_focus (h.perform (.forget n)) hr with ⟨hnone, hf⟩ | ⟨w, hw, ho⟩
  · have hnone := hcalls.trans hnone
    have hf : (s.forget n).state.Fades (s.respond x).state := hsplit ▸ hf
    rw [hnone, Option.none_or, Option.isSome_none, Bool.false_or]
    by_cases hs : s.roster.selected = some n
    · have hnowhere := (nowhere_forget hs hk).fades hf
      cases hb : kept && !s.loses x with
      | false => exact hnowhere
      | true =>
        -- If the one selected next had a widget, the keyboard would have been lost.
        have hx : x.removes n = true := by rw [hn, beq_self_eq_true]
        constructor
        · intro m w hm hw
          have hl : s.loses x = true :=
            loses_of_removes h ha hs hx hend hnone (hf.selected ▸ hm) (hf.widget m w hw)
          simp [hl] at hb
        · intro m w hw he
          exact absurd he (hnowhere m w hw)
    · have hkeep : s.loses x = false := by
        apply loses_eq_false h
        intro m hm
        rw [hn]
        apply beq_false_of_ne
        rintro rfl
        exact hs hm
      rw [hkeep, Bool.not_false, Bool.and_true]
      exact hk.fades ((fades_forget hs).trans hf)
  · have hw := hcalls.trans hw
    rw [hw, hsplit]
    exact ho

/-- What a response does to the keyboard: if it gives some instance the keyboard, the selected one
has it; otherwise the selected one has it if it had it before, unless the response loses it. -/
theorem respond_focus {s : State} (h : s.Coherent) (hq : s.Quiet) {focus : Option Widget}
    {kept : Bool} (hk : s.Keyboard focus kept) (x : Stimulus) :
    (s.respond x).state.Keyboard ((lastFocus (Effect.calls (s.respond x).effects)).or focus)
      ((lastFocus (Effect.calls (s.respond x).effects)).isSome || kept && !s.loses x) := by
  cases ha : s.isAlive with
  | false =>
    apply keyboard_of_empty
    rw [respond_eq h.roster]
    exact roster_acts_of_dead ha (hq ha) x
  | true =>
    by_cases hr : ∀ name, x.removes name = false
    · have hkeep : s.loses x = false := loses_eq_false h fun name _ => hr name
      have hgentle : ∀ a ∈ s.acts x, ∀ name, a.removes name = false :=
        fun a hm name => removes_of_mem_acts (hr name) hm
      rw [respond_eq h.roster, hkeep]
      rcases performAll_focus h hgentle with ⟨hn, hf⟩ | ⟨w, hw, ho⟩
      · rw [hn]
        simpa using hk.fades hf
      · rw [hw]
        exact ho
    · simp only [not_forall, Bool.not_eq_false] at hr
      obtain ⟨name, hx⟩ := hr
      by_cases hend : x = .inbound .sessionEnd
      · subst hend
        apply keyboard_of_empty
        rw [respond_eq h.roster, acts, if_pos ha, inboundActs, performAll_singleton, perform,
          terminate, if_pos ha]
      · obtain ⟨n, as, hacts, hn, hr⟩ := (acts_of_removes ha hx).resolve_left hend
        exact respond_focus_of_removes h ha hk hend hacts hn hr

/-! ## A run -/

/-- Whether the selected instance has kept the keyboard after a run, or got it back. -/
def keeps (s : State) (kept : Bool) : List Stimulus → Bool
  | [] => kept
  | x :: xs =>
    (s.respond x).state.keeps
      ((lastFocus (Effect.calls (s.respond x).effects)).isSome || kept && !s.loses x) xs

theorem run_focus {s : State} (h : s.Coherent) (hq : s.Quiet) {focus : Option Widget}
    {kept : Bool} (hk : s.Keyboard focus kept) (xs : List Stimulus) :
    (s.run xs).state.Keyboard ((lastFocus (Effect.calls (s.run xs).effects)).or focus)
      (s.keeps kept xs) := by
  induction xs generalizing s focus kept with
  | nil => exact hk
  | cons x xs ih =>
    have hi := ih (h.respond x) (quiet_respond h hq x) (respond_focus h hq hk x)
    rw [← Option.or_assoc, ← lastFocus_append, ← Effect.calls_append] at hi
    exact hi

/-- Each response in a run that loses the keyboard is followed by one that gives some instance the
keyboard. -/
def Regains (s : State) (xs : List Stimulus) : Prop :=
  ∀ earlier y later, xs = earlier ++ y :: later → (s.run earlier).state.loses y = true →
    ∃ c ∈ Effect.calls (((s.run earlier).state.respond y).state.run later).effects,
      c.action = .focus

private theorem exists_focus_iff (calls : List Call) :
    (∃ c ∈ calls, c.action = .focus) ↔ lastFocus calls ≠ none := by
  rw [ne_eq, lastFocus_eq_none_iff]
  simp

private theorem regains_cons (s : State) (x : Stimulus) (xs : List Stimulus) :
    s.Regains (x :: xs) ↔
      (s.loses x = true →
        lastFocus (Effect.calls ((s.respond x).state.run xs).effects) ≠ none) ∧
      (s.respond x).state.Regains xs := by
  simp only [Regains, exists_focus_iff]
  constructor
  · intro h
    constructor
    · intro hl
      exact h [] x xs rfl hl
    · intro earlier y later he hl
      exact h (x :: earlier) y later (by rw [he, List.cons_append]) hl
  · rintro ⟨hx, h⟩ earlier y later he hl
    cases earlier with
    | nil =>
      cases he
      exact hx hl
    | cons z earlier =>
      cases he
      exact h earlier y later rfl hl

/-- The keyboard was kept, or got back, unless it was lost and no instance has got it since. -/
theorem keeps_iff {s : State} (h : s.Coherent) (kept : Bool) (xs : List Stimulus) :
    s.keeps kept xs = true ↔
      (kept = true ∨ lastFocus (Effect.calls (s.run xs).effects) ≠ none) ∧ s.Regains xs := by
  induction xs generalizing s kept with
  | nil => simp [keeps, Regains]
  | cons x xs ih =>
    have hl (hl : s.loses x = true) : lastFocus (Effect.calls (s.respond x).effects) = none := by
      obtain ⟨-, -, -, hf⟩ := of_loses h hl
      exact hf
    rw [keeps, ih (h.respond x), regains_cons, run_cons, Step.andThen, Effect.calls_append,
      lastFocus_append]
    cases hx : s.loses x with
    | true =>
      rw [hl hx]
      simp +contextual
    | false =>
      cases hf : lastFocus (Effect.calls (s.respond x).effects) <;> simp

/-- The selected instance has the keyboard, if it has a widget, exactly if each response that lost
the keyboard was followed by one that gave some instance the keyboard. -/
theorem focus_on_selection_iff (id : String) (setup : Setup) (xs : List Stimulus)
    {name : String} {i : Instance} {w : Widget}
    (hs : ((initial id setup).run xs).state.roster.selected = some name)
    (hi : ((initial id setup).run xs).state.roster.get? name = some i)
    (hw : i.screen.widget = some w) :
    lastFocus (Effect.calls ((initial id setup).run xs).effects) = some w ↔
      (initial id setup).Regains xs := by
  have h := Coherent.initial id setup
  have hq := quiet_initial id setup
  have hstart : (initial id setup).Keyboard none true := keyboard_of_empty rfl none true
  have hend := run_focus h hq hstart xs
  have hv := (congrArg Screen.widget (screen_of_get? hi)).trans hw
  have hkeeps := keeps_iff h true xs
  simp only [true_or, true_and] at hkeeps
  rw [Option.or_none] at hend
  rw [← hkeeps]
  cases hk : (initial id setup).keeps true xs with
  | true =>
    rw [hk] at hend
    exact ⟨fun _ => rfl, fun _ => hend.selected name w hs hv⟩
  | false =>
    rw [hk] at hend
    exact ⟨fun hf => absurd hf (hend name w hv), fun hf => by cases hf⟩

/-- In a session with two instances the second is shown, taken out and so loses the keyboard, until
the first is shown again. -/
theorem focus_on_selection_of_two :
    let xs : List Stimulus :=
      [.bootstrap (.ok { instances := [("a", .named "a"), ("b", .named "b")] }), .select "b",
        .inbound (.instanceDelete "b"), .select "a"]
    let t := (initial "s1" {}).run xs
    ∃ i w, t.state.roster.selected = some "a" ∧ t.state.roster.get? "a" = some i ∧
      i.screen.widget = some w ∧
      (lastFocus (Effect.calls t.effects) = some w ↔ (initial "s1" {}).Regains xs) :=
  ⟨_, _, rfl, rfl, rfl, focus_on_selection_iff "s1" {} _ rfl rfl rfl⟩

/-- The keyboard may stay behind: the second of two instances is shown and taken out, and the first,
which was shown before it, is selected without getting the keyboard. -/
theorem focus_left_behind :
    let t := (initial "s1" {}).run
      [.bootstrap (.ok { instances := [("a", .named "a"), ("b", .named "b")] }), .select "b",
        .inbound (.instanceDelete "b")]
    t.state.isAlive = true ∧ t.state.roster.selected = some "a" ∧
      (t.state.screen "a").widget = some { name := "a", serial := 0 } ∧
      lastFocus (Effect.calls t.effects) = some { name := "b", serial := 2 } := by
  decide +kernel

end State
end TermSync.Session

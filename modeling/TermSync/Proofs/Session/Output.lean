import TermSync.Proofs.Session.Screens

/-!
# No output is lost

From the moment at which an instance comes in, its screen receives the output for its name, each
byte once and in order: what its widget has drawn and what still waits make up the whole.

The instance's widget is new when it is attached, so nothing was drawn on it before, and no other
instance's output ever is. Main statements: `received_perform` (what one act
adds) and `output_of_lifetime`.
-/

namespace TermSync.Session

open Roster (Instance Record)
open Terminal (Call Screen Widget drawn drawn_append drawn_of_ne)
open Text (Bytes)

/-- The output for a name that an act takes. -/
def Act.output (name : String) : Act → Bytes
  | .route n data => if n = name then data else []
  | _ => []

/-- The output for a name that a stimulus brings. -/
def Stimulus.output (name : String) : Stimulus → Bytes
  | .inbound (.terminalOut n data) => if n = name then data else []
  | _ => []

namespace State

/-! ## What a screen receives -/

private theorem received_display {s : State} (h : s.Coherent) {past : List Call}
    (hp : s.IsPast past) (n name : String) :
    ((s.perform (.display n)).state.screen name).received
        (past ++ Effect.calls (s.perform (.display n)).effects) =
      (s.screen name).received past := by
  have hf (v w : Widget) : drawn v [⟨w, .focus⟩] = [] := by simp [drawn]
  have hs := screen_display s n name
  rcases display_cases s n with ⟨i, w, -, -, -, hd⟩ | ⟨i, _, _, -, hi, hw, hd⟩ | ⟨-, hd⟩
  · rw [hd]
    exact Screen.received_append_of_drawn (fun v _ => hf v w) past
  · have hc : Effect.calls (s.perform (.display n)).effects = s.openingCalls n i := by
      rw [hd, Effect.calls_make, Effect.calls_map_call]
    rw [hc]
    rcases hs with hs | ⟨hn, -, hs⟩
    · rw [hs]
      apply Screen.received_append_of_ne
      intro c hc
      have hnew : s.IsAside { s with nextSerial := s.nextSerial + 1 } (s.newWidget n) :=
        .inr ⟨Nat.le_refl _, Nat.lt_succ_self _⟩
      rw [widget_of_mem_openingCalls hc]
      exact h.screen_ne hnew
    · subst hn
      have hpast : ∀ c ∈ past, c.widget ≠ s.newWidget n := by
        intro c hc he
        have hl := hp c hc
        rw [he] at hl
        exact Nat.lt_irrefl _ hl
      rw [hs, openingCalls, ← List.append_assoc, screen_of_get? hi,
        Screen.received_append_of_drawn fun v _ => hf v _]
      exact Screen.received_attach hw hpast s.viewport.current
  · rw [hd]
    simp

private theorem received_route {s : State} (h : s.Coherent) (past : List Call) (n name : String)
    (data : Bytes) :
    ((s.perform (.route n data)).state.screen name).received
        (past ++ Effect.calls (s.perform (.route n data)).effects) =
      (s.screen name).received past ++ (Act.route n data).output name := by
  rw [calls_route, screen_route, Act.output]
  by_cases hn : n = name
  · subst hn
    rw [if_pos rfl, if_pos rfl]
    exact Screen.received_deliver (h.drained_screen n) data past
  · rw [if_neg hn, if_neg hn, List.append_nil]
    apply Screen.received_append_of_ne
    intro c hc he
    exact hn (h.eq_of_screen (Screen.of_mem_deliver hc).1 he)

private theorem received_forget {s : State} (h : s.Coherent) (past : List Call) {n name : String}
    (hne : n ≠ name) :
    ((s.forget n).state.screen name).received (past ++ Effect.calls (s.forget n).effects) =
      (s.screen name).received past := by
  have hs : (s.forget n).state.screen name = s.screen name :=
    held_perform holding_screen s (a := .forget n) rfl (beq_false_of_ne hne)
  rw [hs]
  apply Screen.received_append_of_ne
  intro c hc he
  rw [calls_forget] at hc
  exact hne (h.eq_of_screen (Screen.of_mem_release hc).1 he)

/-- Of all widgets that are resized, an instance's own is resized once. -/
private theorem drawn_resizeAll {s : State} (h : s.Coherent) {name : String} {i : Instance}
    {w : Widget} (hi : s.roster.get? name = some i) (hw : i.screen.widget = some w)
    (g : Terminal.Geometry) :
    drawn w (Effect.calls (s.resizeAll g).effects) = drawn w (i.screen.resize g).2 := by
  obtain ⟨before, later, hs, hothers⟩ := Roster.Table.exists_rows_eq hi
  have hother {rows : List (String × Instance)} (hsub : ∀ r ∈ rows, r ∈ before ++ later) :
      drawn w ((rows.map Prod.snd).flatMap fun j => (j.screen.resize g).2) = [] := by
    apply drawn_of_ne
    intro c hc he
    obtain ⟨j, hj, hc⟩ := List.mem_flatMap.mp hc
    obtain ⟨r, hr, rfl⟩ := List.mem_map.mp hj
    obtain ⟨hne, hg⟩ := hothers r (hsub r hr)
    exact hne (h.eq_of_widget hg hi (he ▸ (Screen.of_mem_resize hc).1) hw)
  have hbuilder : drawn w (s.builder.resize g).2 = [] := by
    obtain ⟨-, -, hne⟩ := h.attached name i w hi hw
    apply drawn_of_ne
    intro c hc he
    exact hne (he ▸ (Screen.of_mem_resize hc).1)
  rw [calls_resizeAll, Roster.Table.values, hs, List.map_append, List.map_cons, List.flatMap_append,
    List.flatMap_cons, drawn_append, drawn_append, drawn_append, hbuilder,
    hother fun r hr => List.mem_append_left _ hr, hother fun r hr => List.mem_append_right _ hr]
  simp

private theorem received_resizeAll {s : State} (h : s.Coherent) (past : List Call) (name : String)
    (g : Terminal.Geometry) :
    ((s.resizeAll g).state.screen name).received
        (past ++ Effect.calls (s.resizeAll g).effects) = (s.screen name).received past := by
  have hown (w : Widget) (hw : ((s.screen name).resize g).1.widget = some w) :
      drawn w (Effect.calls (s.resizeAll g).effects) = drawn w ((s.screen name).resize g).2 := by
    rw [Screen.widget_resize] at hw
    obtain ⟨i, hi, hv⟩ := exists_of_screen hw
    rw [drawn_resizeAll h hi hv, screen_of_get? hi]
  rw [screen_resizeAll, Screen.received_append_congr hown]
  exact Screen.received_resize (s.screen name) g past

/-- What an act adds to what a screen has received is the output that it takes. -/
theorem received_perform {s : State} (h : s.Coherent) {past : List Call} (hp : s.IsPast past)
    {name : String} {a : Act} (hr : a.removes name = false) :
    ((s.perform a).state.screen name).received
        (past ++ Effect.calls (s.perform a).effects) =
      (s.screen name).received past ++ a.output name := by
  have still {t : Step} (ht : t.state.screen name = s.screen name)
      (hc : Effect.calls t.effects = []) :
      (t.state.screen name).received (past ++ Effect.calls t.effects) =
        (s.screen name).received past ++ [] := by
    rw [ht, hc, List.append_nil, List.append_nil]
  cases a with
  | forget n =>
    have hne : n ≠ name := by simpa [Act.removes] using hr
    exact (received_forget h past hne).trans (List.append_nil _).symm
  | display n => exact (received_display h hp n name).trans (List.append_nil _).symm
  | route n data => exact received_route h past n name data
  | resizeAll g => exact (received_resizeAll h past name g).trans (List.append_nil _).symm
  | type n data => exact still (screen_type s n name data) rfl
  | flush n => exact still (screen_flush s n name) (calls_flush s n)
  | terminate => cases hr
  | aside a =>
    have hs : (s.performAside a).state.screen name = s.screen name :=
      held_perform holding_screen s (a := .aside a) rfl rfl
    have hne : ∀ c ∈ Effect.calls (s.performAside a).effects,
        (s.screen name).widget ≠ some c.widget := by
      intro c hc
      exact h.screen_ne ((performAside_apart s a).touched c hc).2
    rw [perform, hs, Screen.received_append_of_ne hne]
    exact (List.append_nil _).symm
  | _ => exact still (held_perform holding_screen s rfl hr) rfl

/-- What acts add to what a screen has received is the output that they take, as long as none of
them takes the instance out. -/
theorem received_performAll {s : State} (h : s.Coherent) {past : List Call} (hp : s.IsPast past)
    {name : String} {as : List Act} (hr : ∀ a ∈ as, a.removes name = false) :
    ((s.performAll as).state.screen name).received
        (past ++ Effect.calls (s.performAll as).effects) =
      (s.screen name).received past ++ as.flatMap (Act.output name) := by
  induction as generalizing s past with
  | nil => simp
  | cons a as ih =>
    have hi := ih (h.perform a) (isPast_perform h hp a) fun b hb =>
      hr b (List.mem_cons_of_mem a hb)
    rw [received_perform h hp (hr a List.mem_cons_self), List.append_assoc, List.append_assoc,
      ← Effect.calls_append] at hi
    exact hi

/-- What is done about a stimulus takes the output that the stimulus brings. -/
theorem output_acts {s : State} (ha : s.isAlive = true) (name : String) (x : Stimulus) :
    (s.acts x).flatMap (Act.output name) = x.output name := by
  have hf : Act.Shows (Act.output name) :=
    ⟨fun _ => rfl, fun _ => rfl, fun _ => rfl, fun _ _ => rfl, rfl, fun _ => rfl, fun _ => rfl⟩
  rw [flatMap_acts hf ha]
  unfold bringing Stimulus.output
  split <;> simp [Act.output, List.flatMap_map]

/-- What the screen of an instance has received by the end of a lifetime of which the past knows
nothing. -/
private theorem received_lifetime {s : State} (h : s.Coherent) (hq : s.Quiet) {past : List Call}
    (hp : s.IsPast past) {name : String} {x : Stimulus} (hx : name ∈ s.arrivals x)
    {life : List Stimulus} (hl : ∀ y ∈ life, y.removes name = false) :
    ((s.run (x :: life)).state.screen name).received
        (past ++ Effect.calls (s.run (x :: life)).effects) =
      (x :: life).flatMap (Stimulus.output name) := by
  obtain ⟨as, bs, hdeeds, has, hnone, hbs⟩ := deeds_of_lifetime hx hl
  have hout : bs.flatMap (Act.output name) = (x :: life).flatMap (Stimulus.output name) := by
    have hall := flatMap_deeds (g := fun _ => Stimulus.output name)
      (fun s x ha => output_acts (s := s) ha name x) h hq hx hl
    have hforget : as.flatMap (Act.output name) = [] :=
      List.flatMap_eq_nil_iff.mpr fun a ha => by rw [has a ha]; rfl
    rwa [hdeeds, List.flatMap_append, hforget, List.nil_append, gather_eq_flatMap] at hall
  have hb := received_performAll (h.performAll as) (isPast_performAll h hp as) hbs
  have hempty : ((s.performAll as).state.screen name).received
      (past ++ Effect.calls (s.performAll as).effects) = [] := by
    rw [screen, held, hnone]
    rfl
  rw [hempty, List.nil_append, hout, List.append_assoc, ← Effect.calls_append] at hb
  rw [run_eq h, hdeeds, performAll_append]
  exact hb

/-- In every run and for every lifetime of an instance in it, what was drawn on its widget and what
still waits make up the output for its name since it came in, and nothing waits once there is a
widget. The same holds for a screen on its own from one release to the next. -/
theorem output_of_lifetime (id : String) (setup : Setup) (earlier : List Stimulus) (x : Stimulus)
    (life : List Stimulus) (name : String)
    (hx : name ∈ ((initial id setup).run earlier).state.arrivals x)
    (hl : ∀ y ∈ life, y.removes name = false) :
    let t := (initial id setup).run (earlier ++ x :: life)
    (∃ i, t.state.roster.get? name = some i ∧
      i.screen.received (Effect.calls t.effects) = (x :: life).flatMap (Stimulus.output name) ∧
      (i.screen.isAttached = true → i.screen.backlog = [])) ∧
    ∀ (console : Screen) (ops : List Screen.Op),
      (console.release.1.performAll ops).1.received (console.release.1.performAll ops).2 =
          ops.flatMap Screen.Op.written ∧
        ((console.release.1.performAll ops).1.isAttached = true →
          (console.release.1.performAll ops).1.backlog = []) := by
  constructor
  · have h := coherent_run id setup earlier
    have hq := quiet_run id setup earlier
    have hr := received_lifetime h hq (isPast_run id setup earlier) hx hl
    obtain ⟨i, hi⟩ := exists_of_lifetime h hq hx hl
    have hd : i.screen.Drained := (h.run (x :: life)).drained name i hi
    rw [screen_of_get? hi, ← Effect.calls_append] at hr
    rw [run_append]
    exact ⟨i, hi, hr, hd.backlog_of_isAttached⟩
  · intro console ops
    have ha := (Screen.accounts_release console).performAll ops
    exact ⟨ha.received, ha.drained.backlog_of_isAttached⟩

/-- Output that comes before its instance is announced, and more after the instance is shown. -/
theorem output_before_announcement :
    let earlier : List Stimulus := [.inbound (.instanceNew (.named "a"))]
    let x : Stimulus := .inbound (.terminalOut "b" [104])
    let life : List Stimulus :=
      [.inbound (.instanceNew (.named "b")), .select "b", .inbound (.terminalOut "b" [105])]
    let t := (initial "s1" {}).run (earlier ++ x :: life)
    "b" ∈ ((initial "s1" {}).run earlier).state.arrivals x ∧
      (∀ y ∈ life, y.removes "b" = false) ∧
      ∃ i, t.state.roster.get? "b" = some i ∧
        i.screen.received (Effect.calls t.effects) = [104, 105] ∧
        (i.screen.isAttached = true → i.screen.backlog = []) :=
  ⟨by decide +kernel, by decide +kernel,
    (output_of_lifetime "s1" {} _ _ _ "b" (by decide +kernel) (by decide +kernel)).1⟩

end State
end TermSync.Session

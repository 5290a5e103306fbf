import TermSync.Terminal.Screen

/-!
# Nothing is lost on a screen

What a screen was given is drawn on its widget or waits in its backlog, each byte once and in
order. `received` puts the two together; every operation adds to it what it brings, and no more.

Main statements: `received_deliver`, `received_resize` and `received_attach` (what each operation
adds), `Accounts.performAll` (any number of them, from one release to the next).
-/

namespace TermSync.Terminal

open Text (Bytes)

/-- What is done to other widgets draws nothing on this one. -/
theorem drawn_of_ne {w : Widget} {calls : List Call} (h : ∀ c ∈ calls, c.widget ≠ w) :
    drawn w calls = [] := by
  simp only [drawn, List.flatMap_eq_nil_iff]
  intro c hc
  rw [if_neg (h c hc)]

namespace Screen

/-- What a screen has received, as far as the calls made so far and its backlog tell. -/
def received (s : Screen) (past : List Call) : Bytes :=
  (match s.widget with
    | some w => drawn w past
    | none => []) ++ s.backlog

theorem received_attached {s : Screen} {w : Widget} (h : s.widget = some w) (past : List Call) :
    s.received past = drawn w past ++ s.backlog := by
  simp [received, h]

theorem received_detached {s : Screen} (h : s.widget = none) (past : List Call) :
    s.received past = s.backlog := by
  simp [received, h]

/-- Of further calls, only what they draw on the widget is received. -/
theorem received_append_congr {s : Screen} {calls others : List Call}
    (h : ∀ w, s.widget = some w → drawn w calls = drawn w others) (past : List Call) :
    s.received (past ++ calls) = s.received (past ++ others) := by
  cases hw : s.widget with
  | none => rw [received_detached hw, received_detached hw]
  | some w =>
    rw [received_attached hw, received_attached hw, drawn_append, drawn_append, h w hw]

/-- Calls that draw nothing on the widget are not received. -/
theorem received_append_of_drawn {s : Screen} {calls : List Call}
    (h : ∀ w, s.widget = some w → drawn w calls = []) (past : List Call) :
    s.received (past ++ calls) = s.received past := by
  have hc : s.received (past ++ calls) = s.received (past ++ []) :=
    received_append_congr (fun w hw => h w hw) past
  rwa [List.append_nil] at hc

/-- Calls on other widgets are not received. -/
theorem received_append_of_ne {s : Screen} {calls : List Call}
    (h : ∀ c ∈ calls, s.widget ≠ some c.widget) (past : List Call) :
    s.received (past ++ calls) = s.received past := by
  apply received_append_of_drawn
  intro w hw
  apply drawn_of_ne
  intro c hc he
  exact h c hc (he ▸ hw)

/-! ## Calls -/

/-- What is done to a widget that is attached to a screen. -/
def openingCalls (s : Screen) (w : Widget) (geometry : Option Geometry) : List Call :=
  ⟨w, .mount⟩ ::
    ((match geometry with
      | some g => [⟨w, .resize g⟩]
      | none => []) ++
    if s.backlog = [] then [] else [⟨w, .write s.backlog⟩])

/-- A widget is attached to a screen that has none: it draws the backlog, and nothing is left. -/
theorem attach?_eq {s : Screen} (h : s.widget = none) (w : Widget) (geometry : Option Geometry) :
    s.attach? w geometry = some ({ widget := some w }, s.openingCalls w geometry) := by
  by_cases hb : s.backlog = []
  · cases geometry <;> simp [attach?, drain, openingCalls, h, hb]
  · cases geometry <;> simp [attach?, drain, openingCalls, h, hb]

/-- Nothing is attached to a screen that has a widget. -/
theorem attach?_eq_none {s : Screen} {v : Widget} (h : s.widget = some v) (w : Widget)
    (geometry : Option Geometry) : s.attach? w geometry = none := by
  simp [attach?, h]

theorem of_mem_openingCalls {s : Screen} {w : Widget} {geometry : Option Geometry} {c : Call}
    (hc : c ∈ s.openingCalls w geometry) : c.widget = w ∧ c.action ≠ .focus := by
  unfold openingCalls at hc
  cases geometry <;> by_cases hb : s.backlog = [] <;> simp [hb] at hc <;> grind

theorem drawn_openingCalls (s : Screen) (w : Widget) (geometry : Option Geometry) :
    drawn w (s.openingCalls w geometry) = s.backlog := by
  unfold openingCalls
  cases geometry <;> by_cases hb : s.backlog = [] <;> simp [hb, drawn]

theorem of_mem_deliver {s : Screen} {data : Bytes} {c : Call} (hc : c ∈ (s.deliver data).2) :
    s.widget = some c.widget ∧ c.action ≠ .focus := by
  cases hw : s.widget with
  | none => simp [deliver, hw] at hc
  | some w =>
    simp only [deliver, hw, List.mem_singleton] at hc
    simp [hc]

theorem of_mem_resize {s : Screen} {g : Geometry} {c : Call} (hc : c ∈ (s.resize g).2) :
    s.widget = some c.widget ∧ c.action ≠ .focus := by
  cases hw : s.widget with
  | none => simp [resize, hw] at hc
  | some w =>
    by_cases hb : s.backlog = []
    · simp only [resize, drain, hw, hb, if_true, List.mem_singleton] at hc
      simp [hc]
    · simp only [resize, drain, hw, hb, if_false, List.mem_cons, List.not_mem_nil,
        or_false] at hc
      rcases hc with rfl | rfl <;> simp

theorem of_mem_release {s : Screen} {c : Call} (hc : c ∈ s.release.2) :
    s.widget = some c.widget ∧ c.action ≠ .focus := by
  cases hw : s.widget with
  | none => simp [release, hw] at hc
  | some w =>
    simp only [release, hw, List.mem_singleton] at hc
    simp [hc]

/-- To release a screen drops its widget and does nothing else. -/
theorem mem_release {s : Screen} {c : Call} :
    c ∈ s.release.2 ↔ c.action = .drop ∧ s.widget = some c.widget := by
  obtain ⟨w, a⟩ := c
  rw [release]
  cases s.widget <;> simp [eq_comm, and_comm]

@[simp] theorem widget_deliver (s : Screen) (data : Bytes) :
    (s.deliver data).1.widget = s.widget := by
  cases hw : s.widget <;> simp [deliver, hw]

@[simp] theorem widget_resize (s : Screen) (g : Geometry) : (s.resize g).1.widget = s.widget := by
  cases hw : s.widget with
  | none => simp [resize, hw]
  | some w => by_cases hb : s.backlog = [] <;> simp [resize, drain, hw, hb]

/-- To take the same geometry again draws nothing and leaves the screen as it is. -/
theorem resize_resize (s : Screen) (g : Geometry) :
    (s.resize g).1.resize g =
      ((s.resize g).1, (s.widget.map fun w => (⟨w, .resize g⟩ : Call)).toList) := by
  cases hw : s.widget with
  | none => simp [resize, hw]
  | some w => by_cases hb : s.backlog = [] <;> simp [resize, drain, hw, hb]

/-! ## What each operation adds -/

/-- With a widget, nothing waits to be drawn. -/
def Drained (s : Screen) : Prop := ∀ w, s.widget = some w → s.backlog = []

theorem Drained.backlog_of_isAttached {s : Screen} (h : s.Drained) (ha : s.isAttached = true) :
    s.backlog = [] := by
  obtain ⟨w, hw⟩ := Option.isSome_iff_exists.mp ha
  exact h w hw

theorem drained_deliver {s : Screen} (h : s.Drained) (data : Bytes) :
    (s.deliver data).1.Drained := by
  intro w hw
  rw [widget_deliver] at hw
  rw [(deliver_drawn s data w hw).2]
  exact h w hw

theorem drained_resize (s : Screen) (g : Geometry) : (s.resize g).1.Drained := by
  intro w hw
  rw [widget_resize] at hw
  exact (resize_drawn s g w hw).2

theorem drained_attached (w : Widget) : ({ widget := some w } : Screen).Drained := fun _ _ => rfl

/-- Output is received once, after all that came before it: with a widget, nothing waits that
could be drawn after it. -/
theorem received_deliver {s : Screen} (h : s.Drained) (data : Bytes) (past : List Call) :
    (s.deliver data).1.received (past ++ (s.deliver data).2) = s.received past ++ data := by
  cases hw : s.widget with
  | none => simp [received, deliver, hw]
  | some w =>
    obtain ⟨hd, hs⟩ := deliver_drawn s data w hw
    rw [hs, received_attached hw, received_attached hw, drawn_append, hd, h w hw]
    simp

/-- A resize adds nothing. -/
theorem received_resize (s : Screen) (g : Geometry) (past : List Call) :
    (s.resize g).1.received (past ++ (s.resize g).2) = s.received past := by
  cases hw : s.widget with
  | none => simp [received, resize, hw]
  | some w =>
    obtain ⟨hd, hb⟩ := resize_drawn s g w hw
    have hr : (s.resize g).1.widget = some w := by rw [widget_resize, hw]
    rw [received_attached hr, received_attached hw, drawn_append, hd, hb, List.append_nil]

/-- A widget that nothing was done to before adds nothing when it is attached. -/
theorem received_attach {s : Screen} (h : s.widget = none) {w : Widget} {past : List Call}
    (hp : ∀ c ∈ past, c.widget ≠ w) (geometry : Option Geometry) :
    ({ widget := some w } : Screen).received (past ++ s.openingCalls w geometry) =
      s.received past := by
  rw [received_attached rfl, received_detached h, drawn_append, drawn_of_ne hp,
    drawn_openingCalls]
  simp

/-! ## Any number of operations -/

/-- What can be done to a screen from one release to the next. -/
inductive Op where
  | write (data : Bytes)
  /-- A widget that cannot be attached is dropped. -/
  | attach (w : Widget) (geometry : Option Geometry)
  | resize (g : Geometry)

/-- The output that an operation brings. -/
def Op.written : Op → Bytes
  | write data => data
  | attach _ _ => []
  | resize _ => []

/-- Do one thing to a screen. -/
def perform (s : Screen) : Op → Screen × List Call
  | .write data => s.deliver data
  | .attach w geometry => (s.attach? w geometry).getD (s, [⟨w, .drop⟩])
  | .resize g => s.resize g

/-- Do one thing after the other. -/
def performAll (s : Screen) : List Op → Screen × List Call
  | [] => (s, [])
  | op :: ops =>
    let (next, calls) := s.perform op
    let (last, more) := next.performAll ops
    (last, calls ++ more)

/-- What calls did to a screen since its release: with no widget yet nothing was done, and with
one all output was drawn. -/
structure Accounts (s : Screen) (past : List Call) (output : Bytes) : Prop where
  untouched : s.widget = none → past = []
  drained : s.Drained
  received : s.received past = output

namespace Accounts

variable {s : Screen} {past : List Call} {output : Bytes}

private theorem attach (h : s.Accounts past output) (w : Widget) (geometry : Option Geometry) :
    (s.perform (.attach w geometry)).1.Accounts
      (past ++ (s.perform (.attach w geometry)).2) output := by
  cases hs : s.widget with
  | none =>
    have hpast : ∀ c ∈ past, c.widget ≠ w := by simp [h.untouched hs]
    simp only [Screen.perform, attach?_eq hs, Option.getD_some]
    refine ⟨fun hn => by simp at hn, drained_attached w, ?_⟩
    rw [received_attach hs hpast, h.received]
  | some v =>
    -- The widget that is refused may be the one that is attached: to drop it draws nothing.
    simp only [Screen.perform, attach?_eq_none hs, Option.getD_none]
    refine ⟨fun hn => by simp [hs] at hn, h.drained, ?_⟩
    have hd : drawn v [⟨w, .drop⟩] = [] := by simp [drawn]
    rw [received_attached hs, drawn_append, hd, List.append_nil, ← received_attached hs, h.received]

/-- Every operation is accounted for. -/
theorem perform (h : s.Accounts past output) (op : Op) :
    (s.perform op).1.Accounts (past ++ (s.perform op).2) (output ++ op.written) := by
  cases op with
  | write data =>
    refine ⟨?_, drained_deliver h.drained data, ?_⟩
    · intro hn
      have hs : s.widget = none := (widget_deliver s data).symm.trans hn
      simp [Screen.perform, deliver, hs, h.untouched hs]
    · rw [Screen.perform, received_deliver h.drained, h.received]
      rfl
  | attach w geometry =>
    rw [Op.written, List.append_nil]
    exact h.attach w geometry
  | resize g =>
    refine ⟨?_, drained_resize s g, ?_⟩
    · intro hn
      have hs : s.widget = none := (widget_resize s g).symm.trans hn
      simp [Screen.perform, resize, hs, h.untouched hs]
    · rw [Screen.perform, received_resize, h.received, Op.written, List.append_nil]

/-- So is any number of them. -/
theorem performAll (h : s.Accounts past output) (ops : List Op) :
    (s.performAll ops).1.Accounts (past ++ (s.performAll ops).2)
      (output ++ ops.flatMap Op.written) := by
  induction ops generalizing s past output with
  | nil => simpa [Screen.performAll] using h
  | cons op ops ih =>
    have hn := ih (h.perform op)
    rw [List.append_assoc, List.append_assoc] at hn
    simpa only [Screen.performAll, List.flatMap_cons] using hn

end Accounts

/-- Of a screen that was released nothing is left. -/
theorem accounts_release (s : Screen) : s.release.1.Accounts [] [] :=
  ⟨fun _ => rfl, fun _ _ => rfl, rfl⟩

end Screen
end TermSync.Terminal

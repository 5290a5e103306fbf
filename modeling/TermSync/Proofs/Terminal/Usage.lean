import TermSync.Proofs.Terminal.Screen

/-!
# How a widget is used

All that is done to one widget, in order. A widget that is opened on a screen is mounted, takes the
geometry known by then and draws the backlog; it is not mounted again, and nothing is done to it
once it was dropped.

Main statements: `usage_openingCalls` (the opening), `usage_resize_perm` (the order in which screens
are resized makes no difference to any widget).
-/

namespace TermSync.Terminal

open Text (Bytes)

/-- What calls do to a widget. -/
def usage (w : Widget) (calls : List Call) : List Action :=
  (calls.filter fun c => c.widget = w).map Call.action

@[simp] theorem usage_append (w : Widget) (as bs : List Call) :
    usage w (as ++ bs) = usage w as ++ usage w bs := by
  rw [usage, List.filter_append, List.map_append]
  rfl

theorem mem_usage {w : Widget} {calls : List Call} {a : Action} :
    a ∈ usage w calls ↔ ⟨w, a⟩ ∈ calls := by
  simp only [usage, List.mem_map, List.mem_filter, decide_eq_true_eq]
  constructor
  · rintro ⟨c, ⟨hc, rfl⟩, rfl⟩
    exact hc
  · intro hc
    exact ⟨⟨w, a⟩, ⟨hc, rfl⟩, rfl⟩

/-- What is done to other widgets is not done to this one. -/
theorem usage_of_ne {w : Widget} {calls : List Call} (h : ∀ c ∈ calls, c.widget ≠ w) :
    usage w calls = [] := by
  rw [usage, List.map_eq_nil_iff, List.filter_eq_nil_iff]
  intro c hc
  simpa using h c hc

/-- What is done to this widget alone is all done to it. -/
theorem usage_of_eq {w : Widget} {calls : List Call} (h : ∀ c ∈ calls, c.widget = w) :
    usage w calls = calls.map Call.action := by
  rw [usage, List.filter_eq_self.mpr]
  intro c hc
  simpa using h c hc

namespace Action

/-- Whether an action neither begins nor ends the use of a widget. -/
def isPlain : Action → Bool
  | mount => false
  | drop => false
  | _ => true

/-- The geometry that an action gives to a widget. -/
def size? : Action → Option Geometry
  | resize g => some g
  | _ => none

end Action

/-- The geometry that a widget took last. -/
def lastSize (actions : List Action) : Option Geometry := (actions.filterMap Action.size?).getLast?

/-- The geometry taken last is the last of what came later, if any came. -/
theorem lastSize_append (as bs : List Action) :
    lastSize (as ++ bs) = (lastSize bs).or (lastSize as) := by
  rw [lastSize, List.filterMap_append, List.getLast?_append]
  rfl

theorem lastSize_of_none {actions : List Action} (h : ∀ a ∈ actions, a.size? = none) :
    lastSize actions = none := by
  rw [lastSize, List.filterMap_eq_nil_iff.mpr h]
  rfl

/-- If one geometry is taken and no other, it is the last. -/
theorem lastSize_of_resize {actions : List Action} {g : Geometry} (hg : .resize g ∈ actions)
    (h : ∀ a ∈ actions, ∀ d, a.size? = some d → d = g) : lastSize actions = some g := by
  have hne : actions.filterMap Action.size? ≠ [] :=
    List.ne_nil_of_mem (List.mem_filterMap.mpr ⟨_, hg, rfl⟩)
  obtain ⟨a, ha, hd⟩ := List.mem_filterMap.mp (List.getLast_mem hne)
  rw [lastSize, List.getLast?_eq_some_getLast hne, h a ha _ hd]

/-! ## Opening -/

/-- What is done to a widget that is opened: it is mounted, takes the geometry if there is one, and
draws the backlog at once if there is any. -/
def opening (geometry : Option Geometry) (backlog : Bytes) : List Action :=
  .mount :: ((geometry.map .resize).toList ++ if backlog = [] then [] else [.write backlog])

@[simp] theorem lastSize_opening (geometry : Option Geometry) (backlog : Bytes) :
    lastSize (opening geometry backlog) = geometry := by
  unfold opening
  split
  · cases geometry <;> rfl
  · cases geometry <;> rfl

theorem drop_not_mem_opening (geometry : Option Geometry) (backlog : Bytes) :
    .drop ∉ opening geometry backlog := by
  unfold opening
  split <;> simp

/-- A widget is used as it should be: it is opened, after that neither mounted nor dropped, and in
the end it may be dropped. -/
def ProperUse (geometry : Option Geometry) (backlog : Bytes) (actions : List Action) : Prop :=
  ∃ between : List Action, (∀ a ∈ between, a.isPlain = true) ∧
    (actions = opening geometry backlog ++ between ∨
      actions = opening geometry backlog ++ between ++ [.drop])

namespace Screen

/-- A widget that is attached to a screen is opened with what the screen kept. -/
theorem usage_openingCalls (s : Screen) (w : Widget) (geometry : Option Geometry) :
    usage w (s.openingCalls w geometry) = opening geometry s.backlog := by
  rw [usage_of_eq fun c hc => (of_mem_openingCalls hc).1]
  unfold openingCalls opening
  cases geometry <;> by_cases hb : s.backlog = [] <;> simp [hb]

/-- Output is drawn, and nothing else is done. -/
theorem mem_deliver {s : Screen} {data : Bytes} {c : Call} (hc : c ∈ (s.deliver data).2) :
    s.widget = some c.widget ∧ c.action = .write data := by
  unfold deliver at hc
  cases hw : s.widget with
  | none =>
    rw [hw] at hc
    cases hc
  | some w =>
    rw [hw] at hc
    cases List.mem_singleton.mp hc
    exact ⟨rfl, rfl⟩

/-- A screen that is resized gives its widget the geometry; besides, it may draw. -/
theorem mem_resize {s : Screen} {g : Geometry} {c : Call} (hc : c ∈ (s.resize g).2) :
    s.widget = some c.widget ∧ (c.action = .resize g ∨ c.action = .write s.backlog) := by
  refine ⟨(of_mem_resize hc).1, ?_⟩
  unfold resize drain at hc
  cases hw : s.widget with
  | none => simp [hw] at hc
  | some w => by_cases hb : s.backlog = [] <;> simp [hw, hb] at hc <;> grind

/-- The widget of a screen that is resized takes the geometry. -/
theorem resize_mem {s : Screen} {w : Widget} (hw : s.widget = some w) (g : Geometry) :
    ⟨w, .resize g⟩ ∈ (s.resize g).2 := by
  simp [resize, hw]

/-- If a widget is on one of some screens at most, the order in which these are resized makes no
difference to it. -/
theorem usage_resize_perm {α : Type} {f : α → Screen} {w : Widget} {as bs : List α}
    (hp : as.Perm bs) (hone : (bs.filter fun a => (f a).widget = some w).length ≤ 1)
    (g : Geometry) :
    usage w (as.flatMap fun a => ((f a).resize g).2) =
      usage w (bs.flatMap fun a => ((f a).resize g).2) := by
  -- Only the screens that have the widget count, and of these there is no other order.
  have hcount (cs : List α) : usage w (cs.flatMap fun a => ((f a).resize g).2) =
      (cs.filter fun a => (f a).widget = some w).flatMap
        fun a => usage w ((f a).resize g).2 := by
    induction cs with
    | nil => rfl
    | cons a cs ih =>
      rw [List.flatMap_cons, usage_append, ih, List.filter_cons]
      split
      · rw [List.flatMap_cons]
      · next hw =>
        rw [usage_of_ne, List.nil_append]
        intro c hc he
        apply hw
        rw [← he, (mem_resize hc).1]
        exact decide_eq_true rfl
  have hfilter := hp.filter fun a => (f a).widget = some w
  have heq : (as.filter fun a => (f a).widget = some w) =
      bs.filter fun a => (f a).widget = some w := by
    match hbs : bs.filter fun a => (f a).widget = some w, hone with
    | [], _ => exact (hbs ▸ hfilter).eq_nil
    | [b], _ => exact (hbs ▸ hfilter).eq_singleton
  rw [hcount, hcount, heq]

end Screen
end TermSync.Terminal

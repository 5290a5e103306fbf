import TermSync.Proofs.Session.Showing

/-!
# What takes the place of an instance that is removed

When an instance is removed, all others stay as they are. If it was selected, the first of the
others is selected instead, and after that, the first confirmed one of them is shown, if there is
one. The two steps come to this: the first confirmed one of the others is selected, wherever
placeholders stand, and it has a widget; only if all others are placeholders, the first of those is
selected.

It makes no difference whether the backend tells that the instance is gone or answers the request to
delete it. Main statements: `unshown?_of_head` (what the second step finds), `dismissed_respond`
and `dismissed_run`.
-/

namespace TermSync

open Roster (Instance)

namespace Roster

/-- The instances by other names, in display order. -/
def others (r : Roster) (name : String) : List Instance :=
  r.instances.filter fun i => i.name != name

/-- The confirmed instance that is shown in the place of another one, if that was selected: the
first of the others. -/
def replacement? (r : Roster) (name : String) : Option Instance :=
  if r.selected = some name then (r.others name).find? fun i => !i.provisional else none

/-- Which instance is selected once another one was removed: the same, unless it was that one; else
the first confirmed one of the others, and if there is none, the first placeholder. -/
def selectedAfter (r : Roster) (name : String) : Option String :=
  if r.selected = some name then
    match r.replacement? name with
    | some i => some i.name
    | none => (r.others name).head?.map Instance.name
  else r.selected

variable {r : Roster} {name : String}

/-- What is left of the instances when one is taken out. -/
theorem instances_without (h : r.Consistent) (name : String) :
    (r.without name).instances = r.others name := by
  rw [instances, h.order_without, others, instances, List.filterMap_filter, List.filter_filterMap]
  apply List.filterMap_congr
  intro n _
  rw [get?_without]
  cases hi : r.get? n with
  | none => simp
  | some i =>
    have hn : i.name = n := h.named n i hi
    by_cases he : n = name <;> simp [Option.filter, hn, he]

/-- If the selected instance is taken out, the first of those that are left is selected. -/
theorem selected_without_self (h : r.Consistent) (hs : r.selected = some name) :
    (r.without name).selected = (r.others name).head?.map Instance.name := by
  obtain ⟨i, hi⟩ := h.exists_of_mem (h.shown name hs)
  cases hx : r.remove? name with
  | none =>
    rw [(remove?_eq_none_iff r name).mp hx] at hi
    cases hi
  | some x =>
    obtain ⟨-, -, -, -, -, hselected, -⟩ := remove?_eq_some hx
    have hnames := (h.remove? hx).names_instances
    rw [← without_of_some hx, instances_without h] at hnames
    rw [without_of_some hx, hselected, if_pos hs, ← without_of_some hx, ← hnames, List.head?_map]

theorem selected?_without_self (h : r.Consistent) (hs : r.selected = some name) :
    (r.without name).selected? = (r.without name).instances.head? := by
  rw [selected?, selected_without_self h hs, instances_without h]
  cases ho : r.others name with
  | nil => rfl
  | cons i is =>
    have hi : i ∈ r.others name := ho ▸ List.mem_cons_self
    obtain ⟨hmem, hne⟩ := List.mem_filter.mp hi
    show (r.without name).get? i.name = some i
    rw [get?_without, if_neg (bne_iff_ne.mp hne), h.get?_of_mem_instances hmem]

/-- The replacement is there when the instance is taken out. -/
theorem get?_replacement (h : r.Consistent) {i : Instance} (hi : r.replacement? name = some i) :
    i.name ≠ name ∧ r.get? i.name = some i := by
  unfold replacement? at hi
  split at hi
  · obtain ⟨hmem, hne⟩ := List.mem_filter.mp (List.mem_of_find?_eq_some hi)
    exact ⟨bne_iff_ne.mp hne, h.get?_of_mem_instances hmem⟩
  · cases hi

end Roster

namespace Session

open Terminal (Call Screen Widget drawn drawn_append drawn_of_ne)
open Time (Timer)

/-- What becomes of an instance that is displayed: nothing, if it has a widget; else it gets a
widget, which draws all that was kept, and a timer to send what is typed. -/
inductive Displayed (effects : List Effect) (i : Instance) : Instance → Prop
  | same (hw : i.screen.isAttached = true) : Displayed effects i i
  | opened (w : Widget) (timer : Timer) (hw : i.screen.widget = none)
      (hdrawn : drawn w (Effect.calls effects) = i.screen.backlog) :
      Displayed effects i { i with screen := { widget := some w }, flushTimer := some timer }

theorem Displayed.isAttached {effects : List Effect} {i j : Instance} (h : Displayed effects i j) :
    j.screen.isAttached = true := by
  cases h with
  | same hw => exact hw
  | opened => rfl

/-- What is done before and draws nothing makes no difference. -/
theorem Displayed.after {before effects : List Effect} {i j : Instance}
    (h : Displayed effects i j) (hb : ∀ w, drawn w (Effect.calls before) = []) :
    Displayed (before ++ effects) i j := by
  cases h with
  | same hw => exact .same hw
  | opened w timer hw hdrawn =>
    refine .opened w timer hw ?_
    rw [Effect.calls_append, drawn_append, hb, List.nil_append, hdrawn]

namespace State

variable {s : State} {name : String}

/-! ## What is shown after a removal -/

/-- If the first instance is selected, a session that sees to it that a confirmed one is shown
finds the first of these, unless that is selected and has a widget. -/
theorem unshown?_of_head (h : s.roster.selected? = s.roster.instances.head?) :
    match s.roster.instances.find? fun i => !i.provisional with
    | some i => s.unshown? = some i ∨
        s.unshown? = none ∧ s.roster.selected? = some i ∧ i.screen.isAttached = true
    | none => s.unshown? = none := by
  unfold unshown?
  rw [h]
  cases s.roster.instances with
  | nil => rfl
  | cons j js =>
    rw [List.head?_cons, List.find?_cons]
    cases hp : j.provisional with
    | true =>
      simp only [hp, Bool.not_true, if_true]
      cases js.find? fun i => !i.provisional with
      | none => rfl
      | some i => exact .inl rfl
    | false =>
      cases hw : j.screen.isAttached with
      | true => simp [hp, hw]
      | false => simp [hp, hw]

/-- An instance was displayed: it is selected, and no other one was touched. -/
structure Displays (s : State) (name : String) (i : Instance) (t : Step) : Prop where
  order : t.state.roster.order = s.roster.order
  selected : t.state.roster.selected = some name
  others : ∀ other, other ≠ name → t.state.roster.get? other = s.roster.get? other
  self : ∃ j, t.state.roster.get? name = some j ∧ Displayed t.effects i j

theorem displays_perform (ha : s.isAlive = true) {i : Instance}
    (hi : s.roster.get? name = some i) : s.Displays name i (s.perform (.display name)) := by
  rcases display_cases s name with ⟨j, w, -, hj, hw, hd⟩ | ⟨j, _, _, -, hj, hw, hd⟩ | ⟨hn, -⟩
  · cases hi.symm.trans hj
    rw [hd]
    exact ⟨rfl, rfl, fun _ _ => rfl, i, hi, .same (by rw [Screen.isAttached, hw]; rfl)⟩
  · cases hi.symm.trans hj
    have hget (other : String) := get?_openedRoster s name other i
    have hfocus : drawn (s.newWidget name) [⟨s.newWidget name, .focus⟩] = [] := by simp [drawn]
    have hdrawn : drawn (s.newWidget name) (s.openingCalls name i) = i.screen.backlog := by
      rw [openingCalls, drawn_append, Screen.drawn_openingCalls, hfocus, List.append_nil]
    rw [hd]
    refine ⟨rfl, rfl, fun other hne => ?_, s.opened name i, ?_, .opened _ _ hw ?_⟩
    · exact (hget other).trans (if_neg hne)
    · exact (hget name).trans (by rw [if_pos rfl, hi]; rfl)
    · rw [Effect.calls_make, Effect.calls_map_call, hdrawn]
  · rcases hn with hn | hn
    · rw [ha] at hn
      cases hn
    · rw [hi] at hn
      cases hn

/-! ## Removals -/

/-- What comes of the removal of an instance. -/
structure Dismissed (s : State) (name : String) (t : Step) : Prop where
  gone : t.state.roster.get? name = none
  names : t.state.roster.names = s.roster.names.filter fun n => n != name
  selected : t.state.roster.selected = s.roster.selectedAfter name
  /-- A confirmed instance that is shown instead has a widget. -/
  replacement : ∀ i, s.roster.replacement? name = some i →
    ∃ j, t.state.roster.get? i.name = some j ∧ j.screen.isAttached = true ∧
      Displayed t.effects i j
  /-- All other instances are as they were. -/
  others : ∀ other, other ≠ name → (∀ i, s.roster.replacement? name = some i → i.name ≠ other) →
    t.state.roster.get? other = s.roster.get? other

/-- If the instance is taken out and none is displayed, what is selected then decides. -/
private theorem dismissed_forget (hs : s.Coherent)
    (hselected : (s.forget name).state.roster.selected = s.roster.selectedAfter name)
    (hreplacement : ∀ i, s.roster.replacement? name = some i → i.screen.isAttached = true) :
    s.Dismissed name (s.forget name) where
  gone := by rw [get?_forget, if_pos rfl]
  names := by
    rw [roster_forget]
    exact hs.roster.order_without name
  selected := hselected
  replacement i hi := by
    obtain ⟨hne, hget⟩ := Roster.get?_replacement hs.roster hi
    have hw := hreplacement i hi
    exact ⟨i, by rw [get?_forget, if_neg hne, hget], hw, .same hw⟩
  others other hne _ := by rw [get?_forget, if_neg hne]

/-- To take out an instance draws nothing. -/
private theorem drawn_forget (w : Widget) :
    drawn w (Effect.calls (s.forget name).effects) = [] := by
  rw [calls_forget, Screen.release]
  cases (s.screen name).widget with
  | none => rfl
  | some v => simp [drawn]

/-- If the instance is taken out and its replacement is displayed, the others are as they were. -/
private theorem dismissed_display (hs : s.Coherent) (ha : s.isAlive = true) {i : Instance}
    (hi : s.roster.replacement? name = some i) :
    s.Dismissed name ((s.forget name).andThen fun u => u.perform (.display i.name)) := by
  obtain ⟨hne, hget⟩ := Roster.get?_replacement hs.roster hi
  let u := (s.forget name).state
  have hgetu (other : String) : u.roster.get? other = if other = name then none
      else s.roster.get? other := get?_forget s name other
  have hd : u.Displays i.name i (u.perform (.display i.name)) := by
    apply displays_perform ((isAlive_forget s name).trans ha)
    rw [hgetu, if_neg hne, hget]
  have hsel : s.roster.selected = some name := by
    unfold Roster.replacement? at hi
    split at hi
    · assumption
    · cases hi
  constructor
  · exact (hd.others name (Ne.symm hne)).trans (by rw [hgetu, if_pos rfl])
  · refine hd.order.trans ?_
    rw [roster_forget]
    exact hs.roster.order_without name
  · refine hd.selected.trans ?_
    rw [Roster.selectedAfter, if_pos hsel, hi]
  · intro j hj
    cases hi.symm.trans hj
    obtain ⟨k, hk, hdisplayed⟩ := hd.self
    exact ⟨k, hk, hdisplayed.isAttached, hdisplayed.after drawn_forget⟩
  · intro other hother hreplacement
    refine (hd.others other fun he => hreplacement i hi he.symm).trans ?_
    rw [hgetu, if_neg hother]

/-- The instance is taken out, and another one is shown if that has to be. -/
private theorem respond_dismissal (hs : s.Coherent) (ha : s.isAlive = true) (name : String) :
    s.respond (.inbound (.instanceDelete name)) =
      (s.forget name).andThen fun u => u.performAll u.showActs := by
  rw [respond_eq hs.roster, acts, if_pos ha]
  rfl

private theorem respond_dismissal_of_shown (hs : s.Coherent) (ha : s.isAlive = true)
    (hshow : (s.forget name).state.showActs = []) :
    s.respond (.inbound (.instanceDelete name)) = s.forget name := by
  rw [respond_dismissal hs ha, Step.andThen, hshow]
  simp

/-- The selected instance is removed: the first of the others is selected, and then the first
confirmed one, unless it is that one and has a widget. -/
private theorem dismissed_of_selected (hs : s.Coherent) (ha : s.isAlive = true)
    (hsel : s.roster.selected = some name) :
    s.Dismissed name (s.respond (.inbound (.instanceDelete name))) := by
  let u := (s.forget name).state
  have hselected : u.roster.selected = (s.roster.others name).head?.map Instance.name := by
    rw [← Roster.selected_without_self hs.roster hsel, ← roster_forget]
  have hinstances : u.roster.instances = s.roster.others name := by
    rw [← Roster.instances_without hs.roster, ← roster_forget]
  have hhead : u.roster.selected? = u.roster.instances.head? := by
    have h := Roster.selected?_without_self hs.roster hsel
    rwa [← roster_forget] at h
  have hshow := unshown?_of_head hhead
  have hreplacement : s.roster.replacement? name =
      u.roster.instances.find? fun i => !i.provisional := by
    rw [Roster.replacement?, if_pos hsel, hinstances]
  rw [← hreplacement] at hshow
  cases hr : s.roster.replacement? name with
  | none =>
    rw [hr] at hshow
    rw [respond_dismissal_of_shown hs ha (by rw [showActs, hshow])]
    refine dismissed_forget hs ?_ fun i hi => ?_
    · rw [Roster.selectedAfter, if_pos hsel, hr]
      exact hselected
    · rw [hr] at hi
      cases hi
  | some i =>
    rw [hr] at hshow
    rcases hshow with hu | ⟨hu, hi, hw⟩
    · have hd := dismissed_display hs ha hr
      rw [respond_dismissal hs ha, Step.andThen, showActs, hu, performAll_singleton]
      exact hd
    · -- The first of the others is the first confirmed one of them, and has a widget.
      rw [respond_dismissal_of_shown hs ha (by rw [showActs, hu])]
      refine dismissed_forget hs ?_ fun j hj => ?_
      · rw [Roster.selectedAfter, if_pos hsel, hr]
        rw [hhead, hinstances] at hi
        rw [hi] at hselected
        exact hselected
      · cases hr.symm.trans hj
        exact hw

/-- While a confirmed instance is on the screen, this is what comes of every removal. -/
theorem dismissed_respond (hs : s.Coherent) (ha : s.isAlive = true) (hon : s.OnScreen)
    (name : String) : s.Dismissed name (s.respond (.inbound (.instanceDelete name))) := by
  by_cases hsel : s.roster.selected = some name
  · exact dismissed_of_selected hs ha hsel
  · obtain ⟨i, hi, hp, hw⟩ := hon
    have hnone : s.roster.replacement? name = none := by rw [Roster.replacement?, if_neg hsel]
    obtain ⟨hselected, hshow⟩ := forget_beside_shown hi hp hw hsel
    rw [respond_dismissal_of_shown hs ha hshow]
    refine dismissed_forget hs ?_ fun j hj => ?_
    · rw [Roster.selectedAfter, if_neg hsel]
      exact hselected
    · rw [hnone] at hj
      cases hj

/-- The answer to a request to delete says the same as the backend's own word. -/
theorem respond_deleted (hs : s.Coherent) (name : String) :
    s.respond (.event (.deleted name (.ok ()))) = s.respond (.inbound (.instanceDelete name)) := by
  rw [respond_eq hs.roster, respond_eq hs.roster]
  rfl

/-- While a confirmed instance is on the screen, the end of any instance comes to the same whether
the backend tells it or answers a request: the instance is gone, and the others stay as they are,
but that one of them may be shown. If the instance was selected, the first confirmed one of the
others is, with a widget, and if there is none, the first placeholder; else the selection stays. If
the request fails, the user is told, and that is all. -/
theorem dismissed_run (id : String) (setup : Setup) (xs : List Stimulus)
    (ha : ((initial id setup).run xs).state.isAlive = true)
    (hon : ((initial id setup).run xs).state.OnScreen) (name : String) :
    let s := ((initial id setup).run xs).state
    s.respond (.event (.deleted name (.ok ()))) = s.respond (.inbound (.instanceDelete name)) ∧
      s.Dismissed name (s.respond (.inbound (.instanceDelete name))) ∧
      ∀ e, s.respond (.event (.deleted name (.error e))) =
        { state := s, effects := [.tell (.ofFailure "delete" e)] } := by
  intro s
  have hs : s.Coherent := coherent_run id setup xs
  refine ⟨respond_deleted hs name, dismissed_respond hs ha hon name, fun e => ?_⟩
  rw [respond, handle, finishDelete, if_pos ha]
  rfl

/-- A placeholder comes first of those that are left, and then an instance that was not shown yet,
of which output was kept. -/
theorem dismissed_before_placeholder :
    let xs : List Stimulus :=
      [.bootstrap (.ok { instances := [("a", { name := "a" })] }), .command "k1" (.create {}),
        .inbound (.terminalOut "b" [104, 105]), .inbound (.instanceNew { name := "b" })]
    let s := ((initial "s1" {}).run xs).state
    s.isAlive = true ∧ s.OnScreen ∧ s.roster.names = ["a", "k1", "b"] ∧
      s.roster.selectedAfter "a" = some "b" ∧
      s.respond (.event (.deleted "a" (.ok ()))) = s.respond (.inbound (.instanceDelete "a")) ∧
      s.Dismissed "a" (s.respond (.inbound (.instanceDelete "a"))) ∧
      ∀ e, s.respond (.event (.deleted "a" (.error e))) =
        { state := s, effects := [.tell (.ofFailure "delete" e)] } := by
  intro xs s
  have ha : s.isAlive = true := by decide +kernel
  have hon : s.OnScreen := by decide +kernel
  have hnames : s.roster.names = ["a", "k1", "b"] := by decide +kernel
  have hselected : s.roster.selectedAfter "a" = some "b" := by decide +kernel
  exact ⟨ha, hon, hnames, hselected, dismissed_run "s1" {} xs ha hon "a"⟩

end State
end Session
end TermSync

import TermSync.Proofs.Session.Attachment
import TermSync.Proofs.Session.Input
import TermSync.Proofs.Time.Timer

/-!
# What goes with a widget

An instance gets a flush timer with its widget and loses both at once. Output waits only where
there is no widget to draw it, and input only where there is one into which it was typed. Widget
and timer take two numbers that follow each other, so a timer tells for whose widget it was started.

Main statements: `Paired.perform` (what one act keeps), `ticks_eq` (what tells that it is time to
send) and `timers_of_attached`.
-/

namespace TermSync.Roster

open Terminal (Screen Widget)
open Text (Bytes)

/-- What the client keeps for an instance; of its timer only the number, which time leaves alone. -/
structure Gear where
  screen : Screen := {}
  typed : Bytes := []
  timer : Option Nat := none

/-- What the client keeps for an instance. -/
def Instance.gear (i : Instance) : Gear where
  screen := i.screen
  typed := i.typed
  timer := i.flushTimer.map Time.Timer.serial

namespace Gear

/-- With a widget there is the timer that was started with it, and no output waits. Without one
there is no timer, and no input waits. -/
structure Paired (g : Gear) : Prop where
  attached : ∀ w, g.screen.widget = some w →
    g.timer = some (w.serial + 1) ∧ g.screen.backlog = []
  detached : g.screen.widget = none → g.timer = none ∧ g.typed = []

theorem Paired.empty : Paired {} where
  attached _ h := by cases h
  detached _ := ⟨rfl, rfl⟩

variable {g : Gear}

/-- A screen may change while its widget stays and has drawn all there is. -/
theorem Paired.withScreen (h : g.Paired) {screen : Screen} (hw : screen.widget = g.screen.widget)
    (hd : screen.Drained) : Paired { g with screen } where
  attached w hs := ⟨(h.attached w (hw ▸ hs)).1, hd w hs⟩
  detached hs := h.detached (hw ▸ hs)

/-- Input may be kept where there is a widget. -/
theorem Paired.withTyped (h : g.Paired) {typed : Bytes}
    (ht : g.screen.widget = none → typed = []) : Paired { g with typed } where
  attached := h.attached
  detached hs := ⟨(h.detached hs).1, ht hs⟩

theorem Paired.drained (h : g.Paired) : g.screen.Drained := fun w hw => (h.attached w hw).2

end Gear
end TermSync.Roster

namespace TermSync.Session

open Roster (Gear Instance)
open Terminal (Screen Widget)
open Text (Bytes)
open Time (Timer)

namespace State

theorem holding_gear : Holding Instance.gear {} where
  ofRecord _ := rfl
  merge _ _ := rfl
  provisional _ := rfl
  note n i := by cases n <;> rfl
  moveTo i moment := by
    unfold Instance.gear Instance.moveTo
    cases i.flushTimer with
    | none => rfl
    | some timer => simp [Timer.serial_advance]

/-- What the client keeps for the instance with a name. -/
def gear (s : State) (name : String) : Gear := s.held Instance.gear {} name

theorem gear_of_get? {s : State} {name : String} {i : Instance}
    (h : s.roster.get? name = some i) : s.gear name = i.gear := held_of_get? h

theorem gear_of_none {s : State} {name : String} (h : s.roster.get? name = none) :
    s.gear name = {} := by
  rw [gear, held, h]
  rfl

/-! ## What one act keeps -/

/-- The parts of each instance are paired, and no two widgets have the same number. -/
structure Paired (s : State) : Prop where
  gear : ∀ name, (s.gear name).Paired
  apart : ∀ m n v w, (s.screen m).widget = some v → (s.screen n).widget = some w →
    v.serial = w.serial → m = n

private theorem gear_display {s : State} (hp : ∀ name, (s.gear name).Paired) (n name : String) :
    ((s.perform (.display n)).state.gear name).Paired := by
  rcases display_cases s n with ⟨i, w, -, -, -, hd⟩ | ⟨i, _, _, -, hi, hw, hd⟩ | ⟨-, hd⟩
  · rw [hd]
    exact hp name
  · have hg := get?_openedRoster s n name i
    rw [hd]
    by_cases hn : name = n
    · subst hn
      rw [if_pos rfl, hi, Option.map_some] at hg
      have ho : (s.opened name i).gear.Paired := by
        constructor
        · intro w hv
          cases hv
          exact ⟨rfl, rfl⟩
        · intro hv
          cases hv
      exact (congrArg (fun i => ((i.map Instance.gear).getD {}).Paired) hg).mpr ho
    · rw [if_neg hn] at hg
      have he : State.gear { s with roster := s.openedRoster n i } name = s.gear name :=
        held_of_eq hg
      exact he ▸ hp name
  · rw [hd]
    exact hp name

private theorem gear_route {s : State} (hp : ∀ name, (s.gear name).Paired) (n name : String)
    (data : Bytes) : ((s.perform (.route n data)).state.gear name).Paired := by
  have hg := Roster.get?_route s.roster n name data
  by_cases hn : name = n
  · subst hn
    rw [if_pos rfl] at hg
    have hs : (s.perform (.route name data)).state.gear name =
        { s.gear name with screen := ((s.gear name).screen.deliver data).1 } := by
      rw [gear_of_get? (s := (s.perform (.route name data)).state) hg, gear, held]
      cases s.roster.get? name <;> rfl
    rw [hs]
    exact (hp name).withScreen (Screen.widget_deliver _ data)
      (Screen.drained_deliver (hp name).drained data)
  · rw [if_neg hn] at hg
    have he : (s.perform (.route n data)).state.gear name = s.gear name := held_of_eq hg
    exact he ▸ hp name

private theorem gear_resizeAll {s : State} (hp : ∀ name, (s.gear name).Paired)
    (g : Terminal.Geometry) (name : String) :
    ((s.resizeAll g).state.gear name).Paired := by
  have hs : (s.resizeAll g).state.gear name =
      { s.gear name with screen := ((s.gear name).screen.resize g).1 } := by
    have hg := Roster.get?_resizeAll s.roster g name
    unfold gear held resizeAll
    simp only [hg]
    cases s.roster.get? name <;> rfl
  rw [hs]
  exact (hp name).withScreen (Screen.widget_resize _ g) (Screen.drained_resize _ g)

/-- Of an instance's parts a change touches only the input that waits. -/
private theorem gear_update {s : State} (hp : ∀ name, (s.gear name).Paired) (n name : String)
    {f : Instance → Instance}
    (hf : ∀ i, s.roster.get? n = some i → (f i).gear = { i.gear with typed := (f i).typed })
    (ht : ∀ i, s.roster.get? n = some i → i.screen.widget = none → (f i).typed = []) :
    ((s.update n f).gear name).Paired := by
  have hg := Roster.get?_update s.roster n name f
  by_cases hn : name = n
  · subst hn
    rw [if_pos rfl] at hg
    cases hi : s.roster.get? name with
    | none =>
      rw [hi, Option.map_none] at hg
      rw [gear_of_none (s := s.update name f) hg]
      exact Gear.Paired.empty
    | some i =>
      rw [hi, Option.map_some] at hg
      rw [gear_of_get? (s := s.update name f) hg, hf i hi, ← gear_of_get? hi]
      apply (hp name).withTyped
      intro hw
      rw [gear_of_get? hi] at hw
      exact ht i hi hw
  · rw [if_neg hn] at hg
    have he : (s.update n f).gear name = s.gear name := held_of_eq hg
    exact he ▸ hp name

private theorem gear_flush {s : State} (hp : ∀ name, (s.gear name).Paired) (n name : String) :
    ((s.flush n).state.gear name).Paired := by
  cases hi : s.roster.get? n with
  | none =>
    rw [flush_eq_of_none hi]
    exact hp name
  | some i =>
    rw [flush_eq hi]
    apply gear_update hp
    · intro j hj
      rw [hi] at hj
      cases hj
      unfold Instance.takeTyped
      dsimp only
      split <;> rfl
    · -- Where nothing waits nothing is left over.
      intro j hj hw
      rw [hi] at hj
      cases hj
      have htyped : i.typed = [] := by
        have hd := (hp n).detached
        rw [gear_of_get? hi] at hd
        exact (hd hw).2
      obtain ⟨sent, hsent, -⟩ := i.takeTyped_pending
      rw [htyped] at hsent
      exact (List.append_eq_nil_iff.mp hsent.symm).2

private theorem gear_perform {s : State} (hp : ∀ name, (s.gear name).Paired) {a : Act}
    (ha : ∀ n data, a = .type n data → (s.screen n).isAttached = true) (name : String) :
    ((s.perform a).state.gear name).Paired := by
  have kept (hspares : a.spares = true) (hr : a.removes name = false) :
      ((s.perform a).state.gear name).Paired := by
    have he : (s.perform a).state.gear name = s.gear name :=
      held_perform holding_gear s hspares hr
    exact he ▸ hp name
  cases a with
  | forget n =>
    by_cases hn : name = n
    · subst hn
      rw [perform, gear_of_none (by rw [get?_forget, if_pos rfl])]
      exact Gear.Paired.empty
    · exact kept rfl (beq_false_of_ne (Ne.symm hn))
  | display n => exact gear_display hp n name
  | route n data => exact gear_route hp n name data
  | resizeAll g => exact gear_resizeAll hp g name
  | type n data =>
    apply gear_update hp
    · intro i hi
      rfl
    · intro i hi hw
      have hattached := ha n data rfl
      rw [screen_of_get? hi, Screen.isAttached, hw] at hattached
      cases hattached
  | flush n => exact gear_flush hp n name
  | terminate =>
    rw [perform, terminate]
    split
    · rw [gear_of_none rfl]
      exact Gear.Paired.empty
    · exact hp name
  | _ => exact kept rfl rfl

private theorem apart_perform {s : State} (h : s.Coherent) (hp : s.Paired) (a : Act)
    {m n : String} {v w : Widget} (hv : ((s.perform a).state.screen m).widget = some v)
    (hw : ((s.perform a).state.screen n).widget = some w) (hs : v.serial = w.serial) : m = n := by
  have older {name : String} {u : Widget} (hu : (s.screen name).widget = some u) :
      u.serial < s.nextSerial := by
    obtain ⟨i, hi, hiu⟩ := exists_of_screen hu
    exact (h.attached name i u hi hiu).2.1
  by_cases hd : ∃ k, a = .display k
  · obtain ⟨k, rfl⟩ := hd
    rcases screen_display s k m with hm | ⟨rfl, -, hm⟩
    · rcases screen_display s k n with hn | ⟨rfl, -, hn⟩
      · exact hp.apart m n v w (hm ▸ hv) (hn ▸ hw) hs
      · -- The second widget is new, and the first is older.
        have hlt := older (hm ▸ hv)
        rw [hn] at hw
        cases hw
        exact absurd hs (Nat.ne_of_lt hlt)
    · rcases screen_display s k n with hn | ⟨rfl, -, -⟩
      · have hlt := older (hn ▸ hw)
        rw [hm] at hv
        cases hv
        exact absurd hs.symm (Nat.ne_of_lt hlt)
      · rfl
  · have hnone : ∀ k, a ≠ .display k := fun k he => hd ⟨k, he⟩
    exact hp.apart m n v w (widget_of_perform hnone hv) (widget_of_perform hnone hw) hs

/-- Every act keeps the parts paired, as long as input is taken only where there is a widget. -/
theorem Paired.perform {s : State} (h : s.Coherent) (hp : s.Paired) {a : Act}
    (ha : ∀ n data, a = .type n data → (s.screen n).isAttached = true) :
    (s.perform a).state.Paired where
  gear := gear_perform hp.gear ha
  apart _ _ _ _ := apart_perform h hp a

/-! ## What a run keeps -/

private theorem Paired.performAll {s : State} (h : s.Coherent) (hp : s.Paired) {as : List Act}
    (has : as.flatMap Act.inputs = []) : (s.performAll as).state.Paired := by
  induction as generalizing s with
  | nil => exact hp
  | cons a as ih =>
    rw [List.flatMap_cons, List.append_eq_nil_iff] at has
    have ha : ∀ n data, a = .type n data → (s.screen n).isAttached = true := by
      rintro n data rfl
      cases has.1
    exact ih (h.perform a) (hp.perform h ha) has.2

/-- A command to take input is obeyed only where there is a widget. -/
private theorem Paired.input {s : State} (h : s.Coherent) (hp : s.Paired) (key n : String)
    (data : Bytes) : (s.respond (.command key (.input n data))).state.Paired := by
  rw [respond_eq h.roster, acts, commandActs]
  split
  · split
    · next i hi =>
      split
      · next hattached =>
        rw [performAll_singleton]
        apply hp.perform h
        intro m d he
        cases he
        rw [screen_of_get? hi]
        exact hattached
      · exact hp
    · exact hp
  · exact hp

/-- Every response keeps the parts paired. -/
theorem Paired.respond {s : State} (h : s.Coherent) (hp : s.Paired) (x : Stimulus) :
    (s.respond x).state.Paired := by
  by_cases hx : ∃ key n data, x = .command key (.input n data)
  · obtain ⟨key, n, data, rfl⟩ := hx
    exact hp.input h key n data
  · rw [respond_eq h.roster]
    apply hp.performAll h
    apply inputs_acts
    intro key n data he
    exact hx ⟨key, n, data, he⟩

theorem paired_initial (id : String) (setup : Setup) : (initial id setup).Paired where
  gear _ := Gear.Paired.empty
  apart m _ _ _ hv := by
    have hnone : ((initial id setup).screen m).widget = none := rfl
    rw [hnone] at hv
    cases hv

theorem paired_run (id : String) (setup : Setup) (xs : List Stimulus) :
    ((initial id setup).run xs).state.Paired := by
  have h := run_induction (P := fun s => s.Coherent ∧ s.Paired)
    ⟨Coherent.initial id setup, paired_initial id setup⟩
    (fun _ x h => ⟨h.1.respond x, h.2.respond h.1 x⟩) xs
  exact h.2

/-! ## The timers of all instances -/

/-- The flush timers of all instances, each with the name that it tells. -/
def flushTimers (s : State) : List (String × Timer) :=
  s.roster.entries.rows.filterMap fun r => r.2.flushTimer.map fun timer => (r.1, timer)

/-- The names of the instances that have a widget. -/
def attachedNames (s : State) : List String :=
  (s.roster.entries.rows.filter fun r => r.2.screen.isAttached).map Prod.fst

end State

/-- Whether what falls due tells that it is time to send the input of the instance with a name. -/
def Firing.ticksFor (name : String) (f : Firing) : Bool :=
  match f.event with
  | .flushTick n => n == name
  | _ => false

namespace State

theorem Paired.timer_iff {s : State} (hp : s.Paired) {name : String} {i : Instance}
    (hi : s.roster.get? name = some i) : i.flushTimer.isSome = i.screen.isAttached := by
  have hg := hp.gear name
  rw [gear_of_get? hi] at hg
  rw [Screen.isAttached]
  cases hw : i.screen.widget with
  | none =>
    have ht := (hg.detached hw).1
    rw [Option.map_eq_none_iff.mp ht]
    rfl
  | some w =>
    have ht := (hg.attached w hw).1
    obtain ⟨timer, htimer, -⟩ := Option.map_eq_some_iff.mp ht
    rw [htimer]
    rfl

/-- A timer was started for the widget that came right before it. -/
theorem Paired.serial {s : State} (hp : s.Paired) {name : String} {i : Instance}
    (hi : s.roster.get? name = some i) {w : Widget} {timer : Timer}
    (hw : i.screen.widget = some w) (ht : i.flushTimer = some timer) :
    timer.serial = w.serial + 1 := by
  have hg := hp.gear name
  rw [gear_of_get? hi] at hg
  have hserial := (hg.attached w hw).1
  rw [Instance.gear, ht] at hserial
  exact Option.some.inj hserial

theorem mem_attachedNames {s : State} {name : String} {i : Instance}
    (hi : s.roster.get? name = some i) (ha : i.screen.isAttached = true) :
    name ∈ s.attachedNames := by
  have hrow := (Roster.Table.mem_rows_iff s.roster.entries name i).mpr hi
  exact List.mem_map.mpr ⟨(name, i), List.mem_filter.mpr ⟨hrow, ha⟩, rfl⟩

/-- The timers are those of the instances that have a widget. -/
theorem names_flushTimers {s : State} (hp : s.Paired) :
    s.flushTimers.map Prod.fst = s.attachedNames := by
  have hrows : ∀ rows : List (String × Instance), (∀ r ∈ rows, r ∈ s.roster.entries.rows) →
      (rows.filterMap fun r => r.2.flushTimer.map fun timer => (r.1, timer)).map Prod.fst =
        (rows.filter fun r => r.2.screen.isAttached).map Prod.fst := by
    intro rows hsub
    induction rows with
    | nil => rfl
    | cons r rows ih =>
      have hr := (Roster.Table.mem_rows_iff _ r.1 r.2).mp (hsub r List.mem_cons_self)
      have hrest := ih fun q hq => hsub q (List.mem_cons_of_mem r hq)
      rw [List.filterMap_cons, List.filter_cons, ← hp.timer_iff hr]
      cases r.2.flushTimer with
      | none => exact hrest
      | some timer => exact congrArg (r.1 :: ·) hrest
  exact hrows _ fun _ hr => hr

theorem nodup_attachedNames (s : State) : s.attachedNames.Nodup :=
  (List.filter_sublist.map Prod.fst).nodup s.roster.entries.nodup

/-- The timers of two instances have different numbers. -/
theorem nodup_serials {s : State} (hp : s.Paired) :
    (s.flushTimers.map fun p => p.2.serial).Nodup := by
  have hwidget {r : String × Instance} (hr : r ∈ s.roster.entries.rows) {timer : Timer}
      (ht : r.2.flushTimer = some timer) :
      ∃ w, (s.screen r.1).widget = some w ∧ timer.serial = w.serial + 1 := by
    have hi := (Roster.Table.mem_rows_iff _ r.1 r.2).mp hr
    have hattached := hp.timer_iff hi
    rw [ht] at hattached
    obtain ⟨w, hw⟩ := Option.isSome_iff_exists.mp hattached.symm
    exact ⟨w, by rw [screen_of_get? hi, hw], hp.serial hi hw ht⟩
  rw [List.Nodup, List.pairwise_map, flushTimers, List.pairwise_filterMap]
  have hkeys := List.pairwise_map.mp s.roster.entries.nodup
  apply hkeys.imp_of_mem
  intro r q hr hq hne p hp' p' hq' hs
  obtain ⟨t, ht, rfl⟩ := Option.map_eq_some_iff.mp hp'
  obtain ⟨u, hu, rfl⟩ := Option.map_eq_some_iff.mp hq'
  obtain ⟨v, hv, htv⟩ := hwidget hr ht
  obtain ⟨w, hw, huw⟩ := hwidget hq hu
  have hserial : v.serial = w.serial := by
    have he : t.serial = u.serial := hs
    omega
  exact hne (hp.apart r.1 q.1 v w hv hw hserial)

private theorem filter_timerFirings (name : String) (limit : Nat) (event : Event)
    (timer : Option Timer) (b : Bool)
    (hb : ∀ f : Firing, f.event = event → f.ticksFor name = b) :
    (Loop.timerFirings limit event timer).filter (Firing.ticksFor name) =
      if b then Loop.timerFirings limit event timer else [] := by
  unfold Loop.timerFirings
  cases timer with
  | none => cases b <;> rfl
  | some timer =>
    rw [List.filter_map]
    have hall : (Firing.ticksFor name ∘ fun due =>
        ({ due, armed := due - timer.wait, serial := timer.serial, event } : Firing)) =
          fun _ => b := by
      funext due
      exact hb _ rfl
    dsimp only
    rw [hall]
    cases b <;> simp

/-- Of all that falls due, what tells that it is time to send an instance's input comes from the
instance's own timer. -/
theorem ticks_eq (s : State) (limit : Nat) (name : String) :
    (Loop.stateFirings limit s).filter (Firing.ticksFor name) =
      Loop.timerFirings limit (.flushTick name)
        ((s.roster.get? name).bind Instance.flushTimer) := by
  have hrow (r : String × Instance) :
      (Loop.timerFirings limit (.flushTick r.1) r.2.flushTimer).filter (Firing.ticksFor name) =
        if r.1 == name then Loop.timerFirings limit (.flushTick r.1) r.2.flushTimer else [] := by
    apply filter_timerFirings
    intro f hf
    rw [Firing.ticksFor, hf]
  have hother {rows : List (String × Instance)} (hne : ∀ r ∈ rows, r.1 ≠ name) :
      (rows.flatMap fun r => Loop.timerFirings limit (.flushTick r.1) r.2.flushTimer).filter
        (Firing.ticksFor name) = [] := by
    rw [List.filter_flatMap, List.flatMap_eq_nil_iff]
    intro r hr
    rw [hrow, beq_false_of_ne (hne r hr)]
    rfl
  have hnot {event : Event} (hevent : ∀ n, event ≠ .flushTick n) (timer : Option Timer) :
      (Loop.timerFirings limit event timer).filter (Firing.ticksFor name) = [] := by
    apply filter_timerFirings name limit event timer false
    intro f hf
    rw [Firing.ticksFor]
    split
    · next n hn => exact absurd (hf.symm.trans hn) (hevent n)
    · rfl
  rw [Loop.stateFirings, List.filter_append, List.filter_append, hnot (by simp), hnot (by simp),
    List.append_nil, List.append_nil]
  cases hi : s.roster.get? name with
  | none =>
    apply hother
    rintro r hr rfl
    have hg := (Roster.Table.mem_rows_iff _ r.1 r.2).mp hr
    rw [Roster.get?, hg] at hi
    cases hi
  | some i =>
    obtain ⟨before, later, hs, hothers⟩ := Roster.Table.exists_rows_eq hi
    rw [hs, List.flatMap_append, List.flatMap_cons, List.filter_append, List.filter_append,
      hother fun r hr => (hothers r (List.mem_append_left _ hr)).1,
      hother fun r hr => (hothers r (List.mem_append_right _ hr)).1, hrow]
    simp

/-- What tells that it is time to send input tells the name of an instance that has a widget. -/
theorem mem_attachedNames_of_tick {s : State} (hp : s.Paired) {limit : Nat} {f : Firing}
    (hf : f ∈ Loop.stateFirings limit s) {name : String} (he : f.event = .flushTick name) :
    name ∈ s.attachedNames := by
  have hticks : f ∈ (Loop.stateFirings limit s).filter (Firing.ticksFor name) := by
    rw [List.mem_filter, Firing.ticksFor, he]
    exact ⟨hf, beq_self_eq_true name⟩
  rw [ticks_eq] at hticks
  cases hi : s.roster.get? name with
  | none =>
    rw [hi] at hticks
    cases hticks
  | some i =>
    apply mem_attachedNames hi
    rw [hi, Option.bind_some] at hticks
    rw [← hp.timer_iff hi]
    cases ht : i.flushTimer with
    | none =>
      rw [ht] at hticks
      cases hticks
    | some timer => rfl

/-- In every run each instance has a flush timer exactly if it has a widget, keeps output only
without a widget and input only with one, and what falls due to tell that it is time to send its
input falls due at its own timer, which was started for its widget and tells its name. The timers
of the session are those of the instances that have a widget, one for each. -/
theorem timers_of_attached (id : String) (setup : Setup) (xs : List Stimulus) :
    let s := ((initial id setup).run xs).state
    (∀ name i, s.roster.get? name = some i →
      (i.screen.isAttached = true ↔ i.flushTimer.isSome = true) ∧
      (i.screen.backlog ≠ [] → i.screen.isAttached = false) ∧
      (i.typed ≠ [] → i.screen.isAttached = true) ∧
      (∀ w timer, i.screen.widget = some w → i.flushTimer = some timer →
        w.name = i.name ∧ timer.serial = w.serial + 1) ∧
      ∀ limit, (Loop.stateFirings limit s).filter (Firing.ticksFor name) =
        Loop.timerFirings limit (.flushTick i.name) i.flushTimer) ∧
    (∀ limit, ∀ f ∈ Loop.stateFirings limit s, ∀ name, f.event = .flushTick name →
      name ∈ s.attachedNames) ∧
    s.flushTimers.map Prod.fst = s.attachedNames ∧ s.attachedNames.Nodup ∧
    (s.flushTimers.map fun p => p.2.serial).Nodup := by
  intro s
  have h : s.Coherent := coherent_run id setup xs
  have hp : s.Paired := paired_run id setup xs
  refine ⟨?_, ?_, names_flushTimers hp, nodup_attachedNames s, nodup_serials hp⟩
  · intro name i hi
    have hg := hp.gear name
    rw [gear_of_get? hi] at hg
    refine ⟨?_, ?_, ?_, ?_, ?_⟩
    · rw [hp.timer_iff hi]
    · intro hb
      rw [← Bool.not_eq_true]
      intro ha
      exact hb (hg.drained.backlog_of_isAttached ha)
    · intro ht
      by_contra ha
      rw [Screen.isAttached, Option.not_isSome_iff_eq_none] at ha
      exact ht (hg.detached ha).2
    · intro w timer hw ht
      rw [h.roster.named name i hi]
      exact ⟨(h.attached name i w hi hw).1, hp.serial hi hw ht⟩
    · intro limit
      rw [ticks_eq, hi, h.roster.named name i hi]
      rfl
  · intro limit f hf name he
    exact mem_attachedNames_of_tick hp hf he

end State
end TermSync.Session

import TermSync.Proofs.Session.Clock
import TermSync.Proofs.Session.Proposals

/-!
# The quiet period before a geometry is sent

A debounce fires when no proposal has come for a while. Its event is handled later, and a proposal
that comes in between starts another debounce but does not withdraw the event: whatever waits then
is settled at once, however new it is.

Runs are considered in which the clock does not go back and only events that have come about are
handled. Main statements: `Timely.respond` (what every response keeps) and `quiet_of_sizes`.
-/

namespace TermSync.Session.State

open Terminal (Geometry)
open Time (Timer)

/-- A run in which the clock does not go back, and in which the event of a debounce is handled only
if one has fired. -/
def Orderly (s : State) (queue : List Nat) : List Stimulus → Prop
  | [] => True
  | x :: xs =>
    s.now ≤ x.clock s.now ∧ (x = .event .resizeSettled → queue ≠ []) ∧
      (s.respond x).state.Orderly (s.settling queue x) xs

/-- The debounce waits for the end of the quiet period after the latest proposal, or has fired when
this had passed. The debounces whose event is to be handled have fired, and none is to come. -/
structure Timely (s : State) (proposed : List Proposal) (queue : List Nat) : Prop where
  timer : ∀ timer, s.viewport.debounce = some timer →
    timer.repeats = false ∧ timer.serial < s.nextSerial ∧
    ∃ p, proposed.getLast? = some p ∧
      (∀ d, timer.due = some d → d = p.time + s.setup.resizeDebounce ∧ timer.serial ∉ queue) ∧
      (timer.due = none → p.time + s.setup.resizeDebounce ≤ s.now)
  older : ∀ n ∈ queue, n < s.nextSerial

namespace Timely

variable {s : State} {proposed : List Proposal} {queue : List Nat}

/-- What keeps the debounce, and does not turn the clock back. -/
private theorem of_frame (ht : s.Timely proposed queue) {t : State} (hsetup : t.setup = s.setup)
    (hnow : s.now ≤ t.now) (hserial : s.nextSerial ≤ t.nextSerial)
    (hd : t.viewport.debounce = s.viewport.debounce) : t.Timely proposed queue where
  timer timer htimer := by
    rw [hd] at htimer
    obtain ⟨hrepeats, holder, p, hp, hdue, hfired⟩ := ht.timer timer htimer
    rw [hsetup]
    exact ⟨hrepeats, Nat.lt_of_lt_of_le holder hserial, p, hp, hdue,
      fun hnone => Nat.le_trans (hfired hnone) hnow⟩
  older n hn := Nat.lt_of_lt_of_le (ht.older n hn) hserial

/-- What leaves no debounce. -/
private theorem of_none (ht : s.Timely proposed queue) {t : State}
    (hserial : s.nextSerial ≤ t.nextSerial) (hd : t.viewport.debounce = none)
    {later : List Nat} (hl : later ⊆ queue) : t.Timely proposed later where
  timer timer htimer := by
    rw [hd] at htimer
    cases htimer
  older n hn := Nat.lt_of_lt_of_le (ht.older n (hl hn)) hserial

/-- The acts that neither let time pass nor settle. -/
private theorem perform (ht : s.Timely proposed queue) {a : Act}
    (hm : ∀ moment, a ≠ .moveTo moment) (ha : a ≠ .aside .settle)
    (hclock : s.now ≤ s.clockAfter a) :
    (s.perform a).state.Timely
      (proposed ++ (s.proposal? a).toList.map fun geometry => { geometry, time := s.now })
      queue := by
  obtain ⟨hsetup, hnow, -⟩ := frame_perform s a
  have hserial := nextSerial_perform s a
  rw [← hnow] at hclock
  have kept (hp : s.proposal? a = none)
      (hd : (s.perform a).state.viewport.debounce = s.viewport.debounce) :
      (s.perform a).state.Timely
        (proposed ++ (s.proposal? a).toList.map fun geometry => { geometry, time := s.now })
        queue := by
    rw [hp, Option.toList_none, List.map_nil, List.append_nil]
    exact ht.of_frame hsetup hclock hserial hd
  cases s.shift_perform a with
  | proposed g serial hp hs hv =>
    rw [hp]
    constructor
    · intro timer htimer
      rw [hv] at htimer
      cases htimer
      refine ⟨rfl, hs.2, ⟨g, s.now⟩, List.getLast?_concat, ?_, ?_⟩
      · rintro d ⟨⟩
        refine ⟨by rw [hsetup], ?_⟩
        intro hq
        -- The number is new.
        exact absurd (ht.older serial hq) (Nat.not_lt.mpr hs.1)
      · rintro ⟨⟩
    · intro n hn
      exact Nat.lt_of_lt_of_le (ht.older n hn) hserial
  | announced g he hv =>
    have hp : s.proposal? a = none := by rw [he]; rfl
    exact kept hp (by rw [hv]; rfl)
  | cancelled he hd hv =>
    have hp : s.proposal? a = none := by rw [he]; rfl
    rw [hp, Option.toList_none, List.map_nil, List.append_nil]
    exact ht.of_none hserial (by rw [hv]; rfl) fun n hn => hn
  | moved moment he hv => exact absurd he (hm moment)
  | settled he hv => exact absurd he ha
  | kept hp hs hv => exact kept hp (by rw [hv])

private theorem performAll (ht : s.Timely proposed queue) {as : List Act}
    (hm : ∀ a ∈ as, ∀ moment, a ≠ .moveTo moment) (ha : ∀ a ∈ as, a ≠ .aside .settle)
    (hc : ∀ a ∈ as, ∀ moment, a ≠ .aside (.setClock moment)) :
    (s.performAll as).state.Timely (proposed ++ s.proposalsOf as) queue := by
  induction as generalizing s proposed with
  | nil => exact (List.append_nil proposed).symm ▸ ht
  | cons a as ih =>
    have hclock : s.now ≤ s.clockAfter a := by
      unfold clockAfter
      split
      · next moment => exact absurd rfl (hm _ List.mem_cons_self moment)
      · next moment => exact absurd rfl (hc _ List.mem_cons_self moment)
      · exact Nat.le_refl s.now
    have hfirst := ht.perform (hm a List.mem_cons_self) (ha a List.mem_cons_self) hclock
    have hrest := ih hfirst (fun b hb => hm b (List.mem_cons_of_mem a hb))
      (fun b hb => ha b (List.mem_cons_of_mem a hb)) fun b hb => hc b (List.mem_cons_of_mem a hb)
    rw [proposalsOf, ← List.append_assoc]
    exact hrest

/-- The time passes. The debounce waits on, or it fires because the quiet period has passed. -/
private theorem moveState (ht : s.Timely proposed queue) {moment : Nat} (hn : s.now ≤ moment) :
    (Loop.moveState moment s).Timely proposed (s.settling queue (.pass moment)) := by
  cases hd : s.viewport.debounce with
  | none =>
    have hmoved : (Loop.moveState moment s).viewport.debounce = none := by
      simp [Loop.moveState, Loop.moveTimer, hd]
    have hqueue : s.settling queue (.pass moment) = queue := by
      rw [settling, hd]
      exact List.append_nil queue
    rw [hqueue]
    exact ht.of_none (t := Loop.moveState moment s) (Nat.le_refl _) hmoved fun n hn => hn
  | some timer =>
    obtain ⟨hrepeats, holder, p, hp, hdue, hfired⟩ := ht.timer timer hd
    have hmoved : (Loop.moveState moment s).viewport.debounce = some (timer.advance moment) := by
      simp [Loop.moveState, Loop.moveTimer, hd]
    have hqueue : s.settling queue (.pass moment) =
        queue ++ (timer.firings moment).map fun _ => timer.serial := by
      rw [settling, hd, Loop.timerFirings, List.map_map]
      rfl
    rw [hqueue]
    constructor
    · intro later hlater
      rw [hmoved] at hlater
      cases hlater
      rcases Timer.advance_once hrepeats moment with ⟨hsame, hnone, -⟩ | ⟨d, hd, hle, hsame, -⟩
      · rw [hsame, hnone, List.map_nil, List.append_nil]
        exact ⟨hrepeats, holder, p, hp, hdue, fun h => Nat.le_trans (hfired h) hn⟩
      · rw [hsame]
        refine ⟨hrepeats, holder, p, hp, by rintro _ ⟨⟩, fun _ => ?_⟩
        show p.time + s.setup.resizeDebounce ≤ moment
        rw [← (hdue d hd).1]
        exact hle
    · intro n hn
      rcases List.mem_append.mp hn with hn | hn
      · exact ht.older n hn
      · obtain ⟨-, -, rfl⟩ := List.mem_map.mp hn
        exact holder

/-- What every response keeps. -/
theorem respond (h : s.Coherent) (ht : s.Timely proposed queue) {x : Stimulus}
    (hn : s.now ≤ x.clock s.now) :
    (s.respond x).state.Timely (proposed ++ s.proposals x) (s.settling queue x) := by
  by_cases hpass : ∃ moment, x = .pass moment
  · obtain ⟨moment, rfl⟩ := hpass
    have hnone : s.proposals (.pass moment) = [] := (proposalsOf_acts h _).symm
    rw [hnone, List.append_nil]
    exact ht.moveState hn
  · by_cases hclock : ∃ moment, x = .setClock moment
    · obtain ⟨moment, rfl⟩ := hclock
      have hnone : s.proposals (.setClock moment) = [] := (proposalsOf_acts h _).symm
      rw [hnone, List.append_nil]
      exact ht.of_frame rfl hn (Nat.le_refl _) rfl
    · by_cases hsettle : x = .event .resizeSettled
      · subst hsettle
        have hnone : s.proposals (.event .resizeSettled) = [] := (proposalsOf_acts h _).symm
        rw [hnone, List.append_nil]
        apply ht.of_none (nextSerial_perform s (.aside .settle))
        · show s.settle.state.viewport.debounce = none
          rw [settle_eq]
          exact (Viewport.settle_settled s.viewport).2.1
        · exact fun n hn => List.mem_of_mem_tail hn
      · rw [settling_of_other hpass hsettle, respond_eq h.roster, ← proposalsOf_acts h]
        apply ht.performAll
        · rintro a ha moment rfl
          exact hpass ⟨moment, cause_of_acts ha⟩
        · rintro a ha rfl
          exact hsettle (cause_of_acts ha)
        · rintro a ha moment rfl
          exact hclock ⟨moment, cause_of_acts ha⟩

end Timely

theorem timely_run (id : String) (setup : Setup) {xs : List Stimulus}
    (ho : (initial id setup).Orderly [] xs) :
    ((initial id setup).run xs).state.Timely ((initial id setup).gather proposals xs)
      ((initial id setup).settlingAfter [] xs) := by
  have hall (xs : List Stimulus) {s : State} (h : s.Coherent) {proposed : List Proposal}
      {queue : List Nat} (ht : s.Timely proposed queue) (ho : s.Orderly queue xs) :
      (s.run xs).state.Timely (proposed ++ s.gather proposals xs) (s.settlingAfter queue xs) := by
    induction xs generalizing s proposed queue with
    | nil =>
      rw [gather, List.append_nil]
      exact ht
    | cons x xs ih =>
      have hrest := ih (h.respond x) (ht.respond h ho.1) ho.2.2
      rw [List.append_assoc] at hrest
      exact hrest
  have ht : (initial id setup).Timely [] [] := by
    constructor
    · rintro timer ⟨⟩
    · rintro n ⟨⟩
  exact hall xs (Coherent.initial id setup) ht ho

/-- When the event of a debounce is handled and a geometry is sent, the quiet period since the
latest proposal has passed exactly if the debounce of this proposal is not waiting for a moment to
come. So it has if the event is this debounce's own. The event may be that of an earlier debounce,
which had fired before the latest proposal came; then the geometry is sent at once. -/
theorem quiet_of_sizes (id : String) (setup : Setup) {xs : List Stimulus} {label : Nat}
    {g : Geometry} (ho : (initial id setup).Orderly [] xs)
    (hl : ((initial id setup).settlingAfter [] xs).head? = some label)
    (hg : g ∈ ((initial id setup).run xs).state.sizes (.event .resizeSettled)) :
    let s := ((initial id setup).run xs).state
    ∃ p timer, ((initial id setup).gather proposals xs).getLast? = some p ∧
      s.viewport.debounce = some timer ∧
      (label = timer.serial → p.time + setup.resizeDebounce ≤ s.now) ∧
      (p.time + setup.resizeDebounce ≤ s.now ↔ ∀ d, timer.due = some d → d ≤ s.now) := by
  intro s
  obtain ⟨hr, hc⟩ := coalesced_run id setup xs
  have ht : s.Timely _ _ := timely_run id setup ho
  have hsetup : s.setup = setup := setup_run (Coherent.initial id setup) xs
  rw [sizes_settle hr, Option.mem_toList] at hg
  obtain ⟨timer, htimer, -⟩ := hc.armed g ((Viewport.settle_eq_some_iff _ g).mp hg).1
  obtain ⟨-, -, p, hp, hdue, hfired⟩ := ht.timer timer htimer
  rw [hsetup] at hdue hfired
  have hpassed : (∀ d, timer.due = some d → d ≤ s.now) →
      p.time + setup.resizeDebounce ≤ s.now := by
    intro hall
    cases hd : timer.due with
    | none => exact hfired hd
    | some d =>
      rw [← (hdue d hd).1]
      exact hall d hd
  refine ⟨p, timer, hp, htimer, ?_, ?_, hpassed⟩
  · intro he
    apply hpassed
    intro d hd
    -- A debounce that is still to fire has no event that could be handled.
    have hqueued := List.mem_of_mem_head? hl
    rw [he] at hqueued
    exact absurd hqueued (hdue d hd).2
  · intro hquiet d hd
    rw [(hdue d hd).1]
    exact hquiet

/-- Of two proposals in a row, the later one is sent when its debounce has fired. -/
theorem quiet_of_burst :
    let xs : List Stimulus :=
      [.command "" (.resize { cols := 80, rows := 24 }), .pass 50,
        .command "" (.resize { cols := 100, rows := 30 }), .pass 150]
    let start := initial "s1" {}
    let s := (start.run xs).state
    start.Orderly [] xs ∧ (start.settlingAfter [] xs).head? = some 1 ∧
      { cols := 100, rows := 30 } ∈ s.sizes (.event .resizeSettled) ∧
      ∃ p timer, (start.gather proposals xs).getLast? = some p ∧
        s.viewport.debounce = some timer ∧
        (1 = timer.serial → p.time + 100 ≤ s.now) ∧
        (p.time + 100 ≤ s.now ↔ ∀ d, timer.due = some d → d ≤ s.now) := by
  intro xs start s
  have ho : start.Orderly [] xs :=
    ⟨by decide, by rintro ⟨⟩, by decide, by rintro ⟨⟩, by decide, by rintro ⟨⟩, by decide,
      by rintro ⟨⟩, trivial⟩
  have hl : (start.settlingAfter [] xs).head? = some 1 := by decide +kernel
  have hg : { cols := 100, rows := 30 } ∈ s.sizes (.event .resizeSettled) := by decide +kernel
  exact ⟨ho, hl, hg, quiet_of_sizes "s1" {} ho hl hg⟩

/-- A proposal that comes when an earlier debounce has fired, and before the event of this one is
handled, is sent without any quiet period. -/
theorem sent_without_quiet :
    let xs : List Stimulus :=
      [.command "" (.resize { cols := 80, rows := 24 }), .pass 100,
        .command "" (.resize { cols := 100, rows := 30 })]
    let start := initial "s1" {}
    let s := (start.run xs).state
    start.Orderly [] (xs ++ [.event .resizeSettled]) ∧
      s.sizes (.event .resizeSettled) = [{ cols := 100, rows := 30 }] ∧
      ∃ p, (start.gather proposals xs).getLast? = some p ∧
        s.now < p.time + s.setup.resizeDebounce := by
  intro xs start s
  refine ⟨?_, by decide +kernel, ⟨{ cols := 100, rows := 30 }, 100⟩, by decide +kernel, by decide⟩
  exact ⟨by decide, by rintro ⟨⟩, by decide, by rintro ⟨⟩, by decide, by rintro ⟨⟩, by decide,
    fun _ => by decide, trivial⟩

end TermSync.Session.State

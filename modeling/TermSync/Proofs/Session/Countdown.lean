import TermSync.Proofs.Session.Clock
import TermSync.Proofs.Time.Countdown
import TermSync.Proofs.Time.Instant
import TermSync.Proofs.Time.Timestamp

/-!
# The countdown

The countdown is computed when the session is loaded and with every tick. From then on it shows what
was left at that moment, and it ticks exactly if something was. After the end of the session neither
changes any more.

`computedAt` is the moment at which it was computed last in a run, and `Counted` what every response
keeps while the clock does not go back. Main statements: `Counted.respond`, `counted_run`,
`Counted.reading_le` (what is shown later), `countdown_after_end` and `countdown_of_run`.
-/

namespace TermSync.Session

open Rest (SessionRecord)
open Time (Instant ReadsAs Span countdownText shownSeconds)

/-- The expiries that come with a stimulus lie within a second or the leap second after it. -/
def Stimulus.IsProper : Stimulus → Prop
  | .bootstrap (.ok r) => ∀ e ∈ r.expiresAt, e.nanos < 2 * Time.nanosPerSecond
  | _ => True

/-- Whether an act touches the countdown, but for the passing of time. -/
def Act.counts : Act → Bool
  | .aside (.relate _) | .aside .startCountdown | .aside .refreshCountdown | .terminate => true
  | _ => false

namespace State

/-! ## What leaves the countdown alone -/

/-- The countdown, and what is known of the end, are the same in another state. -/
structure Still (s t : State) : Prop where
  created : t.lifecycle.createdAt = s.lifecycle.createdAt
  expires : t.lifecycle.expiresAt = s.lifecycle.expiresAt
  countdown : t.countdown = s.countdown
  ticking : t.countdownTimer.isSome = s.countdownTimer.isSome

theorem Still.trans {s t u : State} (h : s.Still t) (hu : t.Still u) : s.Still u :=
  ⟨hu.created.trans h.created, hu.expires.trans h.expires, hu.countdown.trans h.countdown,
    hu.ticking.trans h.ticking⟩

theorem still_perform (s : State) {a : Act} (ha : a.counts = false) :
    s.Still (s.perform a).state := by
  cases a with
  | display name =>
    rcases display_cases s name with ⟨_, _, -, -, -, hd⟩ | ⟨_, _, _, -, -, -, hd⟩ | ⟨-, hd⟩ <;>
      rw [hd] <;> exact ⟨rfl, rfl, rfl, rfl⟩
  | forget name =>
    obtain ⟨_, he⟩ := s.forget_eq name
    rw [perform, he]
    exact ⟨rfl, rfl, rfl, rfl⟩
  | flush name =>
    cases hi : s.roster.get? name with
    | none =>
      rw [perform, flush_eq_of_none hi]
      exact ⟨rfl, rfl, rfl, rfl⟩
    | some i =>
      rw [perform, flush_eq hi]
      exact ⟨rfl, rfl, rfl, rfl⟩
  | terminate => cases ha
  | moveTo moment =>
    refine ⟨rfl, rfl, rfl, ?_⟩
    exact Option.isSome_map
  | aside a =>
    cases a with
    | settle =>
      rw [perform, performAside, settle_eq]
      exact ⟨rfl, rfl, rfl, rfl⟩
    | setConnected connected =>
      obtain ⟨_, he⟩ := s.setConnected_eq connected
      rw [perform, performAside, he]
      exact ⟨rfl, rfl, rfl, rfl⟩
    | attachBuilder =>
      rcases s.attachBuilder_cases with ⟨-, he⟩ | ⟨-, he⟩ <;>
        rw [perform, performAside, he] <;> exact ⟨rfl, rfl, rfl, rfl⟩
    | relate r => cases ha
    | startCountdown => cases ha
    | refreshCountdown => cases ha
    | _ => exact ⟨rfl, rfl, rfl, rfl⟩
  | _ => exact ⟨rfl, rfl, rfl, rfl⟩

theorem still_performAll (s : State) {as : List Act} (has : ∀ a ∈ as, a.counts = false) :
    s.Still (s.performAll as).state := by
  induction as generalizing s with
  | nil => exact ⟨rfl, rfl, rfl, rfl⟩
  | cons a as ih =>
    exact (still_perform s (has a List.mem_cons_self)).trans
      (ih _ fun b hb => has b (List.mem_cons_of_mem a hb))

/-- The countdown is touched only while the session is alive: when it is loaded, with a tick, and
with its end. -/
theorem cause_of_counts {s : State} {x : Stimulus} {a : Act} (ha : a ∈ s.acts x)
    (hc : a.counts = true) :
    s.isAlive = true ∧ ((∃ r, x = .bootstrap (.ok r)) ∨
      a = .aside .refreshCountdown ∧ x = .event .countdownTick ∨ a = .terminate) := by
  have hshow {t : State} (hm : a ∈ t.showActs) : False := by
    obtain ⟨name, rfl⟩ := display_of_mem_showActs hm
    cases hc
  cases x with
  | bootstrap answer => cases answer <;> simp only [acts] at ha <;> grind
  | command key c =>
    rw [acts] at ha
    split at ha
    · cases c <;> simp only [commandActs] at ha <;> grind [Act.counts]
    · cases ha
  | inbound e =>
    rw [acts] at ha
    split at ha
    · cases e <;> simp only [inboundActs] at ha <;> grind [Act.counts]
    · cases ha
  | event e =>
    cases e with
    | created key answer =>
      cases answer <;> simp only [acts, eventActs, createdActs] at ha <;> grind [Act.counts]
    | deleted name answer =>
      cases answer <;> simp only [acts, eventActs, deletedActs] at ha <;> grind [Act.counts]
    | _ => simp only [acts, eventActs] at ha; grind [Act.counts]
  | _ =>
    cases List.mem_singleton.mp ha
    cases hc

/-! ## What was left at some moment -/

theorem remaining_eq_some {l : Lifecycle} {n : Instant} {left : Span} :
    l.remaining n = some left ↔
      ∃ c e, l.createdAt = some c ∧ l.expiresAt = some e ∧ left = max (e.since n) 0 := by
  unfold Lifecycle.remaining
  constructor
  · intro h
    split at h
    · next c e hc he => exact ⟨c, e, hc, he, (Option.some.inj h).symm⟩
    · cases h
  · rintro ⟨c, e, hc, he, rfl⟩
    rw [hc, he]

/-- What the clock shows at some moment. -/
def timeAt (s : State) (moment : Nat) : Instant := s.setup.started.addMillis moment

/-- The countdown was computed last at some moment. It shows what was left then, and ticks exactly
if something was; after the end of the session it does not tick. -/
structure Counted (s : State) (moment : Nat) : Prop where
  past : moment ≤ s.now
  proper : ∀ e ∈ s.lifecycle.expiresAt, e.nanos < 2 * Time.nanosPerSecond
  text : s.countdown = s.lifecycle.countdownText (s.timeAt moment)
  ticking : s.isAlive = true → ∀ left, s.lifecycle.remaining (s.timeAt moment) = some left →
    (s.countdownTimer.isSome = true ↔ 0 < left)
  stopped : s.isAlive = false → s.countdownTimer.isSome = false

/-- Once nothing is left, nothing will be. -/
private theorem remaining_nonpos {s : State} (hp : ∀ e ∈ s.lifecycle.expiresAt,
      e.nanos < 2 * Time.nanosPerSecond) {m k : Nat} (hm : m ≤ k) {before left : Span}
    (hbefore : s.lifecycle.remaining (s.timeAt m) = some before)
    (hleft : s.lifecycle.remaining (s.timeAt k) = some left) (hnone : before ≤ 0) : left ≤ 0 := by
  obtain ⟨_, e, -, he, rfl⟩ := remaining_eq_some.mp hbefore
  obtain ⟨_, e', -, he', rfl⟩ := remaining_eq_some.mp hleft
  obtain rfl : e = e' := Option.some.inj (he.symm.trans he')
  have hthen := Instant.isLeap_addMillis s.setup.started m
  have hnow := Instant.isLeap_addMillis s.setup.started k
  rw [timeAt, Instant.since_eq hthen] at hnone
  rw [timeAt, Instant.since_eq hnow]
  have hnonpos := Instant.left_nonpos (hp e he) hthen hnow
    (Instant.total_addMillis_le s.setup.started hm) (Int.le_trans (Int.le_max_left _ _) hnone)
  exact Int.max_le.mpr ⟨hnonpos, Int.le_refl 0⟩

/-- A tick is the last one if nothing is left. -/
private theorem ticking_refresh {s : State} {left : Span}
    (hleft : s.lifecycle.remaining s.time = some left) :
    s.refreshCountdown.countdownTimer.isSome = true ↔
      0 < left ∧ s.countdownTimer.isSome = true := by
  have hexpired : s.isExpired = decide (left ≤ 0) := by
    unfold isExpired remaining
    rw [hleft]
  show (if s.isExpired = true then none else s.countdownTimer).isSome = true ↔ _
  rw [hexpired]
  by_cases hnone : left ≤ 0
  · rw [decide_eq_true hnone, if_pos rfl]
    exact iff_of_false Bool.false_ne_true fun hpos => Int.not_lt.mpr hnone hpos.1
  · rw [decide_eq_false hnone, if_neg Bool.false_ne_true]
    exact ⟨fun hsome => ⟨Int.not_le.mp hnone, hsome⟩, And.right⟩

theorem counted_initial (id : String) (setup : Setup) : (initial id setup).Counted 0 where
  past := Nat.le_refl 0
  proper := by rintro e ⟨⟩
  text := rfl
  ticking := by rintro - left ⟨⟩
  stopped := by rintro ⟨⟩

namespace Counted

variable {s : State} {moment : Nat}

/-- What leaves the countdown alone, and does not turn the clock back. -/
theorem of_still (h : s.Counted moment) {t : State} (ht : s.Still t) (hsetup : t.setup = s.setup)
    (hnow : s.now ≤ t.now) (halive : t.isAlive = s.isAlive) : t.Counted moment where
  past := Nat.le_trans h.past hnow
  proper := by rw [ht.expires]; exact h.proper
  text := by
    rw [ht.countdown, h.text, timeAt, timeAt, hsetup]
    unfold Lifecycle.countdownText Lifecycle.remaining
    rw [ht.created, ht.expires]
  ticking ha left hleft := by
    rw [ht.ticking]
    refine h.ticking (halive ▸ ha) left ?_
    unfold Lifecycle.remaining at hleft ⊢
    rwa [timeAt, hsetup, ht.created, ht.expires] at hleft
  stopped ha := by rw [ht.ticking]; exact h.stopped (halive ▸ ha)

/-- A tick computes what is left now; if nothing is, it is the last one. -/
theorem refresh (h : s.Counted moment) : s.refreshCountdown.Counted s.now where
  past := Nat.le_refl s.now
  proper := h.proper
  text := rfl
  ticking ha left hleft := by
    obtain ⟨c, e, hc, he, -⟩ := remaining_eq_some.mp hleft
    have hbefore : s.lifecycle.remaining (s.timeAt moment) =
        some (max (e.since (s.timeAt moment)) 0) := remaining_eq_some.mpr ⟨c, e, hc, he, rfl⟩
    rw [ticking_refresh (s := s) hleft]
    constructor
    · exact And.left
    · intro hpos
      refine ⟨hpos, (h.ticking ha _ hbefore).mpr (Int.not_le.mp fun hzero => ?_)⟩
      exact Int.not_lt.mpr (remaining_nonpos h.proper h.past hbefore hleft hzero) hpos
  stopped ha := by
    show (if s.isExpired = true then none else s.countdownTimer).isSome = false
    split
    · rfl
    · exact h.stopped ha

/-- Loading computes what is left, and lets the countdown tick if something is. -/
theorem start (ha : s.isAlive = true)
    (hp : ∀ e ∈ s.lifecycle.expiresAt, e.nanos < 2 * Time.nanosPerSecond) :
    s.startCountdown.Counted s.now := by
  have hexpiring {left : Span} (hleft : s.lifecycle.remaining s.time = some left) :
      s.refreshCountdown.isExpiring = decide (0 < left) := by
    unfold isExpiring remaining
    rw [show s.refreshCountdown.lifecycle.remaining s.refreshCountdown.time = some left from hleft]
  have hdead (hd : s.isAlive = false) : False := by
    rw [ha] at hd
    cases hd
  unfold startCountdown
  dsimp only
  split
  · next hstart =>
    refine ⟨Nat.le_refl _, hp, rfl, fun _ left hleft => ?_, fun hd => (hdead hd).elim⟩
    rw [hexpiring hleft, Bool.and_eq_true, decide_eq_true_eq] at hstart
    exact iff_of_true rfl hstart.1
  · next hkeep =>
    refine ⟨Nat.le_refl _, hp, rfl, fun _ left hleft => ?_, fun hd => (hdead hd).elim⟩
    constructor
    · exact fun hsome => ((ticking_refresh (s := s) hleft).mp hsome).1
    · intro hpos
      rw [hexpiring hleft, decide_eq_true hpos, Bool.true_and, Option.isNone_iff_eq_none] at hkeep
      exact Option.isSome_iff_ne_none.mpr hkeep

/-- With the end the countdown stops, and shows what it showed. -/
theorem terminate (h : s.Counted moment) : s.terminate.state.Counted moment := by
  unfold State.terminate
  split
  · refine ⟨h.past, h.proper, h.text, fun ha => ?_, fun _ => rfl⟩
    cases ha
  · exact h

end Counted

/-! ## When it is computed -/

/-- Whether the countdown is computed in response to a stimulus: while the session is alive it is,
when the session is loaded and with every tick. -/
def computes (s : State) : Stimulus → Bool
  | .bootstrap (.ok _) | .event .countdownTick => s.isAlive
  | _ => false

/-- The moment at which the countdown was computed last after a run; the moment given, if it was not
computed in the run. -/
def computedAt (s : State) (moment : Nat) : List Stimulus → Nat
  | [] => moment
  | x :: xs => (s.respond x).state.computedAt (if s.computes x then s.now else moment) xs

/-- What is done when a session is loaded: at last the countdown begins. -/
private theorem loadActs_cases (s : State) (r : SessionRecord) :
    ∃ as, s.loadActs r = .aside (.relate r) :: (as ++ [.aside .startCountdown]) ∧
      ∀ a ∈ as, (∃ record, a = .learn record) ∨ ∃ name, a = .display name := by
  unfold loadActs
  dsimp only
  refine ⟨_ ++ _, by rw [List.append_assoc]; rfl, ?_⟩
  intro a ha
  rcases List.mem_append.mp ha with ha | ha
  · obtain ⟨entry, -, rfl⟩ := List.mem_map.mp ha
    exact .inl ⟨_, rfl⟩
  · split at ha
    · exact .inr ⟨_, List.mem_singleton.mp ha⟩
    · cases ha

/-- After loading, the countdown has been computed now. -/
theorem counted_load {s : State} (h : s.Coherent) (ha : s.isAlive = true) {r : SessionRecord}
    (hr : Stimulus.IsProper (.bootstrap (.ok r))) :
    (s.respond (.bootstrap (.ok r))).state.Counted s.now := by
  obtain ⟨as, hacts, has⟩ := loadActs_cases s r
  have hgentle : ∀ a ∈ as, a.counts = false := by
    intro a hm
    rcases has a hm with ⟨_, rfl⟩ | ⟨_, rfl⟩ <;> rfl
  have hunmoved : ∀ a ∈ as, ∀ m, a ≠ .moveTo m ∧ a ≠ .aside (.setClock m) := by
    intro a hm m
    rcases has a hm with ⟨_, rfl⟩ | ⟨_, rfl⟩ <;> exact ⟨nofun, nofun⟩
  have hunended : ∀ a ∈ as, a ≠ .terminate := by
    rintro a hm rfl
    cases hgentle _ hm
  let related := (s.performAside (.relate r)).state
  have hstill := still_performAll related hgentle
  have halive : (related.performAll as).state.isAlive = true :=
    (isAlive_performAll hunended).trans ha
  have hnow : (related.performAll as).state.now = s.now := now_performAll related hunmoved
  have hload : (s.respond (.bootstrap (.ok r))).state =
      (related.performAll as).state.startCountdown := by
    rw [respond_eq h.roster, acts, if_pos ha, hacts]
    show (related.performAll (as ++ [.aside .startCountdown])).state = _
    rw [performAll_append, Step.andThen, performAll_singleton]
    rfl
  rw [hload, ← hnow]
  apply Counted.start halive
  rw [hstill.expires]
  exact hr

/-- Whatever comes and does not turn the clock back, the countdown is computed now or was computed
last when it was before. -/
theorem Counted.respond {s : State} (h : s.Coherent) {moment : Nat} (hc : s.Counted moment)
    {x : Stimulus} (hx : x.IsProper) (hnow : s.now ≤ x.clock s.now) :
    (s.respond x).state.Counted (if s.computes x then s.now else moment) := by
  cases hcomputes : s.computes x with
  | true =>
    rw [if_pos rfl]
    unfold computes at hcomputes
    split at hcomputes
    · exact counted_load h hcomputes hx
    · rw [State.respond, handle, if_pos hcomputes]
      exact hc.refresh
    · cases hcomputes
  | false =>
    rw [if_neg Bool.false_ne_true]
    refine respond_induction (P := fun t => t.Counted moment) h hc hnow fun t a ha hclock ht => ?_
    obtain ⟨hsetup, hlater, -⟩ := frame_perform t a
    cases hcounts : a.counts with
    | false =>
      refine ht.of_still (still_perform t hcounts) hsetup (hlater ▸ hclock) (isAlive_perform t ?_)
      rintro rfl
      cases hcounts
    | true =>
      -- The only one left is the end: the others compute the countdown.
      obtain ⟨halive, ⟨r, rfl⟩ | ⟨-, rfl⟩ | rfl⟩ := cause_of_counts ha hcounts
      · rw [computes, halive] at hcomputes
        cases hcomputes
      · rw [computes, halive] at hcomputes
        cases hcomputes
      · exact ht.terminate

/-- After a forward run, the countdown was computed last at the moment that the run says. -/
theorem counted_run {s : State} (h : s.Coherent) {moment : Nat} (hc : s.Counted moment)
    {xs : List Stimulus} (hf : Forward s.now xs) (hp : ∀ x ∈ xs, x.IsProper) :
    (s.run xs).state.Counted (s.computedAt moment xs) := by
  induction xs generalizing s moment with
  | nil => exact hc
  | cons x xs ih =>
    have hrest : Forward (s.respond x).state.now xs := by
      rw [now_respond h]
      exact hf.2
    exact ih (h.respond x) (hc.respond h (hp x List.mem_cons_self) hf.1) hrest
      fun y hy => hp y (List.mem_cons_of_mem x hy)

/-- The moment of the last computation does not go back. -/
theorem le_computedAt {s : State} (h : s.Coherent) {moment : Nat} (hm : moment ≤ s.now)
    {xs : List Stimulus} (hf : Forward s.now xs) : moment ≤ s.computedAt moment xs := by
  induction xs generalizing s moment with
  | nil => exact Nat.le_refl moment
  | cons x xs ih =>
    have hnow := now_respond h x
    have hrest : Forward (s.respond x).state.now xs := by
      rw [hnow]
      exact hf.2
    have hone : moment ≤ if s.computes x then s.now else moment := by
      split
      · exact hm
      · exact Nat.le_refl moment
    have hlast : (if s.computes x then s.now else moment) ≤ (s.respond x).state.now := by
      have hforward := hf.1
      rw [hnow]
      split <;> omega
    exact Nat.le_trans hone (ih (h.respond x) hlast hrest)

/-! ## What is known of the end -/

private theorem expires_performAll {s : State} {as : List Act}
    (has : ∀ a ∈ as, a.counts = true → a = .aside .refreshCountdown ∨ a = .terminate) :
    (s.performAll as).state.lifecycle.expiresAt = s.lifecycle.expiresAt := by
  induction as generalizing s with
  | nil => rfl
  | cons a as ih =>
    have hfirst : (s.perform a).state.lifecycle.expiresAt = s.lifecycle.expiresAt := by
      cases hc : a.counts with
      | false => exact (still_perform s hc).expires
      | true =>
        rcases has a List.mem_cons_self hc with rfl | rfl
        · rfl
        · rw [perform, terminate]
          split <;> rfl
    exact (ih fun b hb => has b (List.mem_cons_of_mem a hb)).trans hfirst

/-- What is known of the session's end changes only when the session is loaded. -/
theorem expires_run {s : State} (h : s.Coherent) {xs : List Stimulus}
    (hx : ∀ x ∈ xs, ∀ r, x ≠ .bootstrap (.ok r)) :
    (s.run xs).state.lifecycle.expiresAt = s.lifecycle.expiresAt := by
  induction xs generalizing s with
  | nil => rfl
  | cons x xs ih =>
    have hfirst : (s.respond x).state.lifecycle.expiresAt = s.lifecycle.expiresAt := by
      rw [respond_eq h.roster]
      apply expires_performAll
      intro a ha hc
      obtain ⟨-, ⟨r, he⟩ | ⟨hrefresh, -⟩ | hend⟩ := cause_of_counts ha hc
      · exact absurd he (hx x List.mem_cons_self r)
      · exact .inl hrefresh
      · exact .inr hend
    exact (ih (h.respond x) fun y hy => hx y (List.mem_cons_of_mem x hy)).trans hfirst

/-! ## What is shown -/

/-- If both timestamps are known, the countdown shows the whole seconds that are left now, none
below zero, and it ticks exactly if something is left. -/
def ShowsRest (s : State) : Prop :=
  ∀ created expires, s.lifecycle.createdAt = some created → s.lifecycle.expiresAt = some expires →
    ReadsAs s.countdown (expires.since s.time / Time.nanosPerSecond).toNat ∧
      (s.countdownTimer.isSome = true ↔ 0 < expires.since s.time)

private theorem shownSeconds_eq (d : Int) :
    shownSeconds (max d 0) = (d / Time.nanosPerSecond).toNat := by
  have hnanos : (Time.nanosPerSecond : Int) = 1000000000 := rfl
  show (Int.tdiv (max d 0) Time.nanosPerSecond).toNat = _
  rw [hnanos, Int.tdiv_eq_ediv_of_nonneg (Int.le_max_right d 0)]
  omega

/-- A countdown that was computed now shows what is left. -/
theorem Counted.showsRest {s : State} (h : s.Counted s.now) (ha : s.isAlive = true) :
    s.ShowsRest := by
  intro c e hc he
  have hleft : s.lifecycle.remaining s.time = some (max (e.since s.time) 0) :=
    remaining_eq_some.mpr ⟨c, e, hc, he, rfl⟩
  constructor
  · rw [h.text, ← shownSeconds_eq]
    show ReadsAs (countdownText (s.lifecycle.remaining s.time)) _
    rw [hleft]
    exact Time.readsAs_countdownText _
  · have hpos (d : Int) : 0 < max d 0 ↔ 0 < d := by omega
    rw [h.ticking ha _ hleft]
    exact hpos _

/-- What can be read of a countdown is what was left at the moment. -/
private theorem Counted.reading {s : State} {moment v : Nat} (h : s.Counted moment)
    (hv : ReadsAs s.countdown v) :
    ∃ e, s.lifecycle.expiresAt = some e ∧
      v = (e.left (s.timeAt moment) / Time.nanosPerSecond).toNat := by
  rw [h.text] at hv
  unfold Lifecycle.countdownText at hv
  cases hr : s.lifecycle.remaining (s.timeAt moment) with
  | none =>
    rw [hr] at hv
    exact absurd hv (Time.not_readsAs_unknownCountdown v)
  | some rest =>
    obtain ⟨_, e, -, he, hrest⟩ := remaining_eq_some.mp hr
    refine ⟨e, he, ?_⟩
    rw [hr] at hv
    rw [hv.unique (Time.readsAs_countdownText rest), hrest, shownSeconds_eq,
      Instant.since_eq (n := s.timeAt moment) (Instant.isLeap_addMillis _ _)]

/-- What is shown of the same end later is no more, unless the expiry lies in a leap second that was
not counted by then and is counted again: then it may be one second more. -/
theorem Counted.reading_le {s t : State} {moment later v v' : Nat} (hs : s.Counted moment)
    (ht : t.Counted later) (hm : moment ≤ later) (hsetup : t.setup = s.setup)
    (hexpires : t.lifecycle.expiresAt = s.lifecycle.expiresAt)
    (hv : ReadsAs s.countdown v) (hv' : ReadsAs t.countdown v') :
    v' ≤ v ∨ v' = v + 1 ∧ ∃ e, s.lifecycle.expiresAt = some e ∧
      e.Uncounted (s.timeAt moment) ∧ ¬ e.Uncounted (s.timeAt later) := by
  obtain ⟨e, he, rfl⟩ := hs.reading hv
  obtain ⟨e', he', rfl⟩ := ht.reading hv'
  rw [hexpires, he] at he'
  obtain rfl : e = e' := Option.some.inj he'
  have htime : t.timeAt later = s.timeAt later := by rw [timeAt, timeAt, hsetup]
  have hsecond : (Time.nanosPerSecond : Int) = 1000000000 := rfl
  rw [htime, hsecond]
  rcases Instant.left_le_or_midnight (t := e) (Instant.total_addMillis_le s.setup.started hm) with
    hle | ⟨hle, hthen, hnow⟩
  · left
    change e.left (s.timeAt later) ≤ e.left (s.timeAt moment) at hle
    omega
  · change e.left (s.timeAt later) ≤ e.left (s.timeAt moment) + 1000000000 at hle
    by_cases hmore : (e.left (s.timeAt later) / 1000000000).toNat ≤
        (e.left (s.timeAt moment) / 1000000000).toNat
    · exact .inl hmore
    · exact .inr ⟨by omega, e, he, hthen, hnow⟩

/-! ## After the end -/

/-- After the end of the session whatever comes leaves the countdown alone. -/
theorem still_of_dead {s : State} (h : s.Coherent) (ha : s.isAlive = false) (xs : List Stimulus) :
    s.Still (s.run xs).state := by
  induction xs generalizing s with
  | nil => exact ⟨rfl, rfl, rfl, rfl⟩
  | cons x xs ih =>
    have hdead : (s.respond x).state.isAlive = false := by
      rw [← Bool.not_eq_true, isAlive_respond h, ha]
      exact fun hno => Bool.false_ne_true hno.1
    have hfirst : s.Still (s.respond x).state := by
      rw [respond_eq h.roster]
      apply still_performAll
      intro a hm
      cases hc : a.counts with
      | false => rfl
      | true =>
        rw [(cause_of_counts hm hc).1] at ha
        cases ha
    exact hfirst.trans (ih (h.respond x) hdead)

/-- After the end of the session no countdown ticks. -/
theorem not_ticking_run (id : String) (setup : Setup) (xs : List Stimulus)
    (hd : ((initial id setup).run xs).state.isAlive = false) :
    ((initial id setup).run xs).state.countdownTimer.isSome = false := by
  have hall (xs : List Stimulus) {s : State} (h : s.Coherent)
      (hs : s.isAlive = false → s.countdownTimer.isSome = false)
      (hd : (s.run xs).state.isAlive = false) : (s.run xs).state.countdownTimer.isSome = false := by
    induction xs generalizing s with
    | nil => exact hs hd
    | cons x xs ih =>
      refine ih (h.respond x) (fun hx => ?_) hd
      cases ha : s.isAlive with
      | false => exact (still_of_dead h ha [x]).ticking.trans (hs ha)
      | true =>
        rw [← Bool.not_eq_true, isAlive_respond h, ha] at hx
        obtain rfl : x = .inbound .sessionEnd := by
          simpa using hx
        rw [respond, if_pos ha]
        show s.terminate.state.countdownTimer.isSome = false
        rw [terminate, if_pos ha]
        rfl
  exact hall xs (Coherent.initial id setup) (fun _ => rfl) hd

/-- From the end of the session on the countdown shows the same and does not tick. -/
theorem countdown_after_end (id : String) (setup : Setup) (xs ys : List Stimulus) :
    let s := ((initial id setup).run xs).state
    let t := (s.respond (.inbound .sessionEnd)).state
    (t.run ys).state.countdown = s.countdown ∧
      (t.run ys).state.countdownTimer.isSome = false := by
  intro s t
  have h : s.Coherent := coherent_run id setup xs
  have ht : t = ((initial id setup).run (xs ++ [.inbound .sessionEnd])).state := by
    rw [run_append]
    rfl
  have hdead : t.isAlive = false := by
    rw [← Bool.not_eq_true, isAlive_respond h]
    exact fun hno => hno.2 rfl
  have hsame : t.countdown = s.countdown := by
    show (s.respond (.inbound .sessionEnd)).state.countdown = s.countdown
    rw [respond]
    split
    · show s.terminate.state.countdown = s.countdown
      rw [terminate]
      split <;> rfl
    · rfl
  have hstopped : t.countdownTimer.isSome = false := by
    rw [ht] at hdead ⊢
    exact not_ticking_run id setup _ hdead
  have hstill := still_of_dead (h.respond _) hdead ys
  exact ⟨hstill.countdown.trans hsame, hstill.ticking.trans hstopped⟩

/-! ## Whole runs -/

/-- A session that was loaded just now shows what is left. -/
private theorem showsRest_load {s : State} (h : s.Coherent) {r : SessionRecord} {t : Step}
    (hr : Stimulus.IsProper (.bootstrap (.ok r))) (ht : s.bootstrap (.ok r) = .ok t) :
    t.state.ShowsRest := by
  have ha : s.isAlive = true := by
    cases ha : s.isAlive with
    | true => rfl
    | false => simp [bootstrap, ha] at ht
  have hload : (s.respond (.bootstrap (.ok r))).state = t.state := by
    simp [respond, Step.orStay, Step.attempt, ht]
  have hcounted := counted_load h ha hr
  have hnow : (s.respond (.bootstrap (.ok r))).state.now = s.now := now_respond h _
  rw [← hnow] at hcounted
  rw [← hload]
  exact hcounted.showsRest ((isAlive_respond h _).mpr ⟨ha, by simp⟩)

private theorem isProper_of_unloaded {y : Stimulus} (hy : ∀ r, y ≠ .bootstrap (.ok r)) :
    y.IsProper := by
  unfold Stimulus.IsProper
  split
  · next r => exact absurd rfl (hy r)
  · trivial

/-- In every run in which the clock does not go back, the countdown shows what is left, and ticks
exactly if something is, after every tick that is handled while the session is alive and after every
time that the session is loaded. In between it shows what was left when it was computed last. Until
the session is loaded again, what is shown never increases, but for one case: the session expires in
a leap second, which was not counted when the countdown was computed before, for the time of day was
later than that of the expiry then, and is counted again now that it has been computed after
midnight; then one second more is shown. In any run, from the end of the session on the countdown
shows the same and does not tick. -/
theorem countdown_of_run (id : String) (setup : Setup) (xs : List Stimulus) :
    let s := ((initial id setup).run xs).state
    let moment := (initial id setup).computedAt 0 xs
    (Forward 0 xs → (∀ x ∈ xs, x.IsProper) →
      (s.isAlive = true → (s.respond (.event .countdownTick)).state.ShowsRest) ∧
      (∀ (r : SessionRecord) (t : Step), Stimulus.IsProper (.bootstrap (.ok r)) →
        s.bootstrap (.ok r) = .ok t → t.state.ShowsRest) ∧
      moment ≤ s.now ∧ s.countdown = s.lifecycle.countdownText (s.timeAt moment) ∧
      ∀ ys, Forward s.now ys → (∀ y ∈ ys, ∀ r, y ≠ .bootstrap (.ok r)) →
        let t := (s.run ys).state
        let later := s.computedAt moment ys
        moment ≤ later ∧ later ≤ t.now ∧
        t.countdown = t.lifecycle.countdownText (t.timeAt later) ∧
        ∀ v v', ReadsAs s.countdown v → ReadsAs t.countdown v' →
          v' ≤ v ∨ v' = v + 1 ∧ ∃ e, s.lifecycle.expiresAt = some e ∧
            e.Uncounted (s.timeAt moment) ∧ ¬ e.Uncounted (s.timeAt later)) ∧
      ∀ ys, let t := (s.respond (.inbound .sessionEnd)).state
        (t.run ys).state.countdown = s.countdown ∧
          (t.run ys).state.countdownTimer.isSome = false := by
  intro s moment
  have h : s.Coherent := coherent_run id setup xs
  constructor
  · intro hf hp
    have hc : s.Counted moment :=
      counted_run (Coherent.initial id setup) (counted_initial id setup) hf hp
    refine ⟨fun ha => ?_, fun r t hr ht => ?_, hc.past, hc.text, fun ys hys hno => ?_⟩
    · rw [respond, handle, if_pos ha]
      exact hc.refresh.showsRest ha
    · exact showsRest_load h hr ht
    · have hproper : ∀ y ∈ ys, y.IsProper := fun y hy => isProper_of_unloaded (hno y hy)
      have hlater := counted_run h hc hys hproper
      have hm := le_computedAt h hc.past hys
      exact ⟨hm, hlater.past, hlater.text, fun v v' hv hv' =>
        hc.reading_le hlater hm (setup_run h ys) (expires_run h hno) hv hv'⟩
  · exact countdown_after_end id setup xs

/-- A session whose expiry lies in the leap second after midnight, loaded in the morning before. -/
def leapRecord : SessionRecord where
  createdAt := Time.Timestamp.parse? "2024-01-01T10:00:00Z"
  expiresAt := Time.Timestamp.parse? "2024-01-02T00:00:60Z"

/-- The client's clock starts at ten in the morning. -/
def morning : Setup := { started := { seconds := 1704103200 } }

/-- The session is loaded, and the last second of the day passes but for a millisecond. -/
def beforeMidnight : List Stimulus :=
  [.bootstrap (.ok leapRecord), .pass 50399999, .event .countdownTick]

private theorem proper_beforeMidnight : ∀ x ∈ beforeMidnight, x.IsProper := by
  intro x hx
  rcases List.mem_cons.mp hx with rfl | hx
  · exact fun e he => Time.Timestamp.nanos_lt_of_parse? he
  · rcases List.mem_cons.mp hx with rfl | hx
    · trivial
    · rw [List.mem_singleton.mp hx]
      trivial

private theorem readsAs_seconds :
    ReadsAs "00:00:59" 59 ∧ ReadsAs "00:01:00" 60 :=
  ⟨⟨['0', '0'], ['0', '0'], ['5', '9'],
      ⟨by decide, List.all_eq_true.mp (by decide), by decide, by decide, by decide⟩, by decide⟩,
    ⟨['0', '0'], ['0', '1'], ['0', '0'],
      ⟨by decide, List.all_eq_true.mp (by decide), by decide, by decide, by decide⟩, by decide⟩⟩

private theorem unloaded_tick (moment : Nat) :
    ∀ y ∈ [Stimulus.pass moment, .event .countdownTick], ∀ r, y ≠ .bootstrap (.ok r) := by
  simp

/-- A second more is shown after midnight, though the session was not loaded again. -/
theorem countdown_rises_at_midnight :
    let s := ((initial "s1" morning).run beforeMidnight).state
    let ys : List Stimulus := [.pass 50400000, .event .countdownTick]
    Forward 0 beforeMidnight ∧ Forward s.now ys ∧ (∀ y ∈ ys, ∀ r, y ≠ .bootstrap (.ok r)) ∧
      ¬ ∀ v v', ReadsAs s.countdown v → ReadsAs (s.run ys).state.countdown v' → v' ≤ v := by
  intro s ys
  have hbefore : s.countdown = "00:00:59" := by decide +kernel
  have hafter : (s.run ys).state.countdown = "00:01:00" := by decide +kernel
  refine ⟨by decide, by decide +kernel, unloaded_tick _, fun hno => ?_⟩
  have hle := hno 59 60 (hbefore ▸ readsAs_seconds.1) (hafter ▸ readsAs_seconds.2)
  exact absurd hle (by decide)

/-- What is shown before and after midnight, and then the end. -/
theorem countdown_around_midnight :
    let s := ((initial "s1" morning).run beforeMidnight).state
    let ys : List Stimulus := [.pass 50400000, .event .countdownTick]
    Forward 0 beforeMidnight ∧ (∀ x ∈ beforeMidnight, x.IsProper) ∧ s.isAlive = true ∧
      (s.respond (.event .countdownTick)).state.ShowsRest ∧
      (∃ t, s.bootstrap (.ok leapRecord) = .ok t ∧ t.state.ShowsRest) ∧
      Forward s.now ys ∧ ReadsAs s.countdown 59 ∧ ReadsAs (s.run ys).state.countdown 60 ∧
      (initial "s1" morning).computedAt 0 beforeMidnight = 50399999 ∧
      s.computedAt 50399999 ys = 50400000 ∧
      (60 ≤ 59 ∨ 60 = 59 + 1 ∧ ∃ e, s.lifecycle.expiresAt = some e ∧
        e.Uncounted (s.timeAt 50399999) ∧ ¬ e.Uncounted (s.timeAt 50400000)) := by
  intro s ys
  have hf : Forward 0 beforeMidnight := by decide
  have hys : Forward s.now ys := by decide +kernel
  have ha : s.isAlive = true := by decide +kernel
  have hbefore : ReadsAs s.countdown 59 := by
    rw [show s.countdown = "00:00:59" by decide +kernel]
    exact readsAs_seconds.1
  have hafter : ReadsAs (s.run ys).state.countdown 60 := by
    rw [show (s.run ys).state.countdown = "00:01:00" by decide +kernel]
    exact readsAs_seconds.2
  have hload : s.bootstrap (.ok leapRecord) = .ok (s.performAll (s.loadActs leapRecord)) := by
    rw [bootstrap, if_pos ha]
    exact load_eq (coherent_run "s1" morning beforeMidnight).roster ha leapRecord
  have hmoment : (initial "s1" morning).computedAt 0 beforeMidnight = 50399999 := by decide +kernel
  have hmidnight : s.computedAt 50399999 ys = 50400000 := by decide +kernel
  obtain ⟨⟨htick, hshown, -, -, hlater⟩, -⟩ :=
    (countdown_of_run "s1" morning beforeMidnight).imp_left fun h => h hf proper_beforeMidnight
  obtain ⟨-, -, -, hrise⟩ := hlater ys hys (unloaded_tick _)
  rw [hmoment, hmidnight] at hrise
  exact ⟨hf, proper_beforeMidnight, ha, htick ha,
    ⟨_, hload, hshown leapRecord _ (proper_beforeMidnight _ List.mem_cons_self) hload⟩, hys,
    hbefore, hafter, hmoment, hmidnight, hrise 59 60 hbefore hafter⟩

end State
end TermSync.Session

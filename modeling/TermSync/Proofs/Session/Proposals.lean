import TermSync.Proofs.Session.Opening
import TermSync.Proofs.Time.Timer

/-!
# Proposals for the viewport

The geometries that are proposed during a run, when, and what is sent of them. Each one waits for
the end of its debounce from then on, in the place of the one before; what is sent is what waited,
unless it was sent last or cannot be drawn.

A debounce that has fired is not done with before its event is handled: `settling` keeps the numbers
of those that are in between. Main statements: `pending_respond` (what waits after a response),
`Coalesced.respond` (what every response keeps) and `resizes_coalesced`.
-/

namespace TermSync.Session

open Terminal (Geometry Screen Widget)
open Time (Timer)

namespace Viewport

/-- What is sent is what was sent last from then on. -/
theorem lastSent_settle (v : Viewport) : v.settle.2.lastSent = v.settle.1.or v.lastSent := by
  unfold settle
  dsimp only
  split
  · rfl
  · split <;> rfl

/-- A proposal that has cells is settled as what was sent last, now or before. -/
theorem lastSent_settle_of_pending {v : Viewport} {g : Geometry} (hg : v.pending = some g)
    (hcells : g.isDegenerate = false) : v.settle.2.lastSent = some g := by
  unfold settle
  rw [hg]
  dsimp only
  split
  · next hkept =>
    rcases hkept with hd | hs
    · rw [hcells] at hd
      cases hd
    · exact hs
  · rfl

end Viewport

namespace Effect

/-- The geometries that are sent among effects. -/
def sizes (effects : List Effect) : List Geometry :=
  (emitted effects).filterMap fun
    | .viewportResize g => some g
    | _ => none

@[simp] theorem sizes_nil : sizes [] = [] := rfl

theorem mem_sizes {effects : List Effect} {g : Geometry} :
    g ∈ sizes effects ↔ .emit (.viewportResize g) ∈ effects := by
  simp only [sizes, emitted, List.mem_filterMap]
  constructor
  · rintro ⟨o, ⟨e, he, ho⟩, hg⟩
    split at ho
    · cases ho
      split at hg
      · cases hg
        exact he
      · cases hg
    · cases ho
  · exact fun he => ⟨.viewportResize g, ⟨_, he, rfl⟩, rfl⟩

end Effect

/-- Whether an act settles the proposal that waits, or forgets it. -/
def Act.clears : Act → Bool
  | .aside .settle | .terminate => true
  | _ => false

/-- Whether the proposal that waits is settled in response to a stimulus, or forgotten. -/
def Stimulus.clears : Stimulus → Bool
  | .event .resizeSettled | .inbound .sessionEnd => true
  | _ => false

/-- A proposal for the viewport, and when it was made. -/
structure Proposal where
  geometry : Geometry
  time : Nat
deriving DecidableEq, Repr

namespace State

/-- The geometries proposed in response to a stimulus: that of a command, or those that the widgets
made for instances would like. -/
def proposals (s : State) (x : Stimulus) : List Proposal :=
  let geometries : List Geometry :=
    match x with
    | .command _ (.resize g) => if s.isAlive then [g] else []
    | .command _ .fit => if s.isAlive then s.selectedFit.toList else []
    | x => (s.creations x).filterMap fun w => s.fits w.name
  geometries.map fun geometry => { geometry, time := s.now }

/-- The geometries sent in response to a stimulus. -/
def sizes (s : State) (x : Stimulus) : List Geometry := Effect.sizes (s.respond x).effects

/-! ## What acts propose and send -/

/-- The proposals of acts. -/
def proposalsOf (s : State) : List Act → List Proposal
  | [] => []
  | a :: as =>
    ((s.proposal? a).toList.map fun geometry => { geometry, time := s.now }) ++
      (s.perform a).state.proposalsOf as

theorem proposalsOf_append (s : State) (as bs : List Act) :
    s.proposalsOf (as ++ bs) = s.proposalsOf as ++ (s.performAll as).state.proposalsOf bs := by
  induction as generalizing s with
  | nil => rfl
  | cons a as ih =>
    rw [List.cons_append, proposalsOf, ih, proposalsOf, List.append_assoc]
    rfl

/-- Acts that cannot propose anything. -/
private theorem proposalsOf_eq_nil {s : State} {as : List Act}
    (h : ∀ a ∈ as, ∀ s : State, s.proposal? a = none) : s.proposalsOf as = [] := by
  induction as generalizing s with
  | nil => rfl
  | cons a as ih =>
    rw [proposalsOf, h a List.mem_cons_self, ih fun b hb => h b (List.mem_cons_of_mem a hb)]
    rfl

private theorem proposal?_of_mute {a : Act} (ha : a.isMute = true) (s : State) :
    s.proposal? a = none := by
  unfold Act.isMute at ha
  split at ha <;> first | rfl | cases ha

/-- An instance that is displayed proposes what the widget would like that is made for it. -/
private theorem proposal?_display (s : State) (name : String) :
    (s.proposal? (.display name)).toList =
      (mounts (Effect.calls (s.perform (.display name)).effects)).filterMap
        fun w => s.fits w.name := by
  rcases display_cases s name with ⟨i, w, ha, hi, hw, hd⟩ | ⟨i, _, _, ha, hi, hw, -⟩ | ⟨hno, hd⟩
  · have hp : s.proposal? (.display name) = none := by
      simp [proposal?, ha, hi, Screen.isAttached, hw]
    rw [hp, hd]
    rfl
  · have hp : s.proposal? (.display name) = s.fits name := by
      simp [proposal?, ha, hi, Screen.isAttached, hw]
    rw [hp, mounts_of_opens (.shown ha hi hw), List.filterMap_cons, newWidget]
    cases s.fits name <;> rfl
  · have hp : s.proposal? (.display name) = none := by
      rcases hno with hno | hno <;> simp [proposal?, hno]
    rw [hp, hd]
    rfl

private theorem frame_mute {s : State} {as : List Act} (h : ∀ a ∈ as, a.isMute = true) :
    (s.performAll as).state.fits = s.fits ∧ (s.performAll as).state.now = s.now := by
  induction as generalizing s with
  | nil => exact ⟨rfl, rfl⟩
  | cons a as ih =>
    obtain ⟨-, hnow, hfits⟩ := frame_perform s a
    have ha := h a List.mem_cons_self
    have hclock : s.clockAfter a = s.now := by
      unfold clockAfter
      split
      · cases ha
      · cases ha
      · rfl
    have hsame : s.fitsAfter a = s.fits := by
      unfold fitsAfter
      split
      · cases ha
      · rfl
    obtain ⟨hrest, hlater⟩ := ih (s := (s.perform a).state) fun b hb =>
      h b (List.mem_cons_of_mem a hb)
    exact ⟨hrest.trans (hfits.trans hsame), hlater.trans (hnow.trans hclock)⟩

/-- What a response proposes that displays an instance. -/
private theorem proposalsOf_displays {s : State} (h : s.Coherent) {x : Stimulus} {name : String}
    (hm : .display name ∈ s.acts x) :
    s.proposalsOf (s.acts x) =
      ((s.openings x).filterMap fun w => s.fits w.name).map
        fun geometry => { geometry, time := s.now } := by
  obtain ⟨before, later, hacts, hmute⟩ := displaysOnly_acts hm
  have hbefore : ∀ b ∈ before, b.isMute = true := fun b hb => hmute b (List.mem_append_left _ hb)
  have hlater : ∀ b ∈ later, b.isMute = true := fun b hb => hmute b (List.mem_append_right _ hb)
  obtain ⟨hfits, hnow⟩ := frame_mute (s := s) hbefore
  obtain ⟨-, hcalls⟩ := performAll_split s before later (.display name)
  rw [openings, respond_eq h.roster, hacts, hcalls, mounts_append, mounts_append,
    mounts_of_drops (drops_performAll hbefore), mounts_of_drops (drops_performAll hlater),
    proposalsOf_append, proposalsOf,
    proposalsOf_eq_nil fun b hb => proposal?_of_mute (hbefore b hb),
    proposalsOf_eq_nil fun b hb => proposal?_of_mute (hlater b hb), proposal?_display, hfits, hnow,
    List.append_nil, List.append_nil, List.nil_append, List.nil_append]

/-- Without a display no widget is made for an instance. -/
private theorem creations_eq_nil {s : State} (h : s.Coherent) {x : Stimulus}
    (hd : ∀ name, .display name ∉ s.acts x) : s.creations x = [] := by
  rw [List.eq_nil_iff_forall_not_mem]
  intro w hw
  rw [creations, Effect.mem_made, respond_eq h.roster] at hw
  obtain ⟨a, ha, rfl⟩ := reason_of_performAll hw
  exact hd w.name ha

/-- The proposals of a response are those of its acts. -/
theorem proposalsOf_acts {s : State} (h : s.Coherent) (x : Stimulus) :
    s.proposalsOf (s.acts x) = s.proposals x := by
  unfold proposals
  dsimp only
  split
  · next key g =>
    rw [acts]
    cases s.isAlive <;> rfl
  · next key =>
    rw [acts, commandActs]
    cases s.isAlive with
    | false => rfl
    | true => cases s.selectedFit <;> rfl
  · next hresize hfit =>
    by_cases hd : ∃ name, .display name ∈ s.acts x
    · obtain ⟨name, hm⟩ := hd
      have hbuilder : x ≠ .attachBuilder := by
        rintro rfl
        cases List.mem_singleton.mp hm
      rw [proposalsOf_displays h hm, creations_eq_openings h hbuilder]
    · have hnone : ∀ name, .display name ∉ s.acts x := fun name hm => hd ⟨name, hm⟩
      rw [creations_eq_nil h hnone]
      apply proposalsOf_eq_nil
      intro a ha t
      cases a with
      | display name => exact absurd ha (hnone name)
      | aside a =>
        cases a with
        | propose g =>
          rcases cause_of_acts ha with ⟨key, d, he⟩ | ⟨key, he⟩
          · exact absurd he (hresize key d)
          · exact absurd he (hfit key)
        | _ => rfl
      | _ => rfl

/-- The channel is closed only because the session is told its end. -/
theorem sessionEnd_of_close {s : State} (h : s.Coherent) {x : Stimulus}
    (he : .closeChannel ∈ (s.respond x).effects) : x = .inbound .sessionEnd := by
  rw [respond_eq h.roster] at he
  obtain ⟨a, ha, rfl⟩ := reason_of_performAll he
  exact (cause_of_mem_acts ha).2 rfl

/-! ## What becomes of proposals -/

/-- The numbers of the debounces that have fired and whose event was not handled, oldest first. -/
def settling (s : State) (queue : List Nat) : Stimulus → List Nat
  | .pass moment =>
    queue ++ (Loop.timerFirings moment .resizeSettled s.viewport.debounce).map Firing.serial
  | .event .resizeSettled => queue.tail
  | _ => queue

theorem settling_of_other {s : State} {queue : List Nat} {x : Stimulus}
    (hp : ¬ ∃ moment, x = .pass moment) (hx : x ≠ .event .resizeSettled) :
    s.settling queue x = queue := by
  unfold settling
  split
  · next moment => exact absurd ⟨moment, rfl⟩ hp
  · exact absurd rfl hx
  · rfl

/-- The numbers of the debounces that have fired during a run and whose event was not handled. -/
def settlingAfter (s : State) (queue : List Nat) : List Stimulus → List Nat
  | [] => queue
  | x :: xs => (s.respond x).state.settlingAfter (s.settling queue x) xs

/-- What is known of proposals and of what was sent of them: only the latest proposal waits, and its
debounce is to fire, or its event is to be handled. -/
structure Coalesced (s : State) (proposed : List Proposal) (sent : List Geometry)
    (queue : List Nat) : Prop where
  lastSent : s.viewport.lastSent = sent.getLast?
  latest : ∀ g, s.viewport.pending = some g →
    proposed.getLast?.map Proposal.geometry = some g
  armed : ∀ g, s.viewport.pending = some g → ∃ timer, s.viewport.debounce = some timer ∧
    (timer.due.isSome = true ∨ timer.serial ∈ queue)

namespace Coalesced

variable {s : State} {proposed : List Proposal} {sent : List Geometry} {queue : List Nat}

/-- The acts that neither let time pass nor settle. -/
private theorem perform (hc : s.Coalesced proposed sent queue) {a : Act}
    (hm : ∀ moment, a ≠ .moveTo moment) (ha : a ≠ .aside .settle) :
    (s.perform a).state.Coalesced
      (proposed ++ (s.proposal? a).toList.map fun geometry => { geometry, time := s.now })
      sent queue := by
  have kept (hp : s.proposal? a = none)
      (hl : (s.perform a).state.viewport.lastSent = s.viewport.lastSent)
      (hg : (s.perform a).state.viewport.pending = s.viewport.pending)
      (hd : (s.perform a).state.viewport.debounce = s.viewport.debounce) :
      (s.perform a).state.Coalesced
        (proposed ++ (s.proposal? a).toList.map fun geometry => { geometry, time := s.now })
        sent queue := by
    rw [hp, Option.toList_none, List.map_nil, List.append_nil]
    constructor
    · rw [hl, hc.lastSent]
    · rw [hg]
      exact hc.latest
    · rw [hg, hd]
      exact hc.armed
  cases s.shift_perform a with
  | proposed g serial hp hs hv =>
    rw [hp]
    constructor
    · rw [hv]
      exact hc.lastSent
    · intro d hd
      rw [hv] at hd
      rw [List.getLast?_append]
      exact hd
    · intro d hd
      rw [hv]
      exact ⟨_, rfl, .inl rfl⟩
  | announced g he hv =>
    have hp : s.proposal? a = none := by rw [he]; rfl
    rw [hv] at kept
    exact kept hp rfl rfl rfl
  | cancelled he hd hv =>
    constructor
    · rw [hv]
      exact hc.lastSent
    · intro g hg
      rw [hv] at hg
      cases hg
    · intro g hg
      rw [hv] at hg
      cases hg
  | moved moment he hv => exact absurd he (hm moment)
  | settled he hv => exact absurd he ha
  | kept hp hs hv =>
    rw [hv] at kept
    exact kept hp rfl rfl rfl

private theorem performAll (hc : s.Coalesced proposed sent queue) {as : List Act}
    (hm : ∀ a ∈ as, ∀ moment, a ≠ .moveTo moment) (ha : ∀ a ∈ as, a ≠ .aside .settle) :
    (s.performAll as).state.Coalesced (proposed ++ s.proposalsOf as) sent queue := by
  induction as generalizing s proposed with
  | nil => exact (List.append_nil proposed).symm ▸ hc
  | cons a as ih =>
    have hfirst := hc.perform (hm a List.mem_cons_self) (ha a List.mem_cons_self)
    have hrest := ih hfirst (fun b hb => hm b (List.mem_cons_of_mem a hb))
      fun b hb => ha b (List.mem_cons_of_mem a hb)
    rw [proposalsOf, ← List.append_assoc]
    exact hrest

/-- The time passes. A debounce that fires is to be handled from then on. -/
private theorem moveState (hc : s.Coalesced proposed sent queue) (moment : Nat) :
    (Loop.moveState moment s).Coalesced proposed sent (s.settling queue (.pass moment)) where
  lastSent := hc.lastSent
  latest := hc.latest
  armed g hg := by
    obtain ⟨timer, ht, hdue⟩ := hc.armed g hg
    have hmoved : (Loop.moveState moment s).viewport.debounce = some (timer.advance moment) := by
      simp [Loop.moveState, Loop.moveTimer, ht]
    refine ⟨timer.advance moment, hmoved, ?_⟩
    rw [settling, ht, Timer.serial_advance, List.mem_append]
    rcases hdue with hdue | hdue
    · rcases Timer.due_or_fires hdue moment with hlater | hfires
      · exact .inl hlater
      · obtain ⟨t, hmem⟩ := List.exists_mem_of_ne_nil _ hfires
        right
        right
        exact List.mem_map.mpr ⟨_, List.mem_map.mpr ⟨t, hmem, rfl⟩, rfl⟩
    · exact .inr (.inl hdue)

/-- The proposal that waited is settled: none waits any more. -/
private theorem settle (hc : s.Coalesced proposed sent queue) (later : List Nat) :
    s.settle.state.Coalesced proposed (sent ++ s.viewport.settle.1.toList) later := by
  have hpending := (Viewport.settle_settled s.viewport).1
  rw [settle_eq]
  constructor
  · rw [Viewport.lastSent_settle, hc.lastSent, List.getLast?_append]
    cases s.viewport.settle.1 <;> rfl
  · intro g hg
    rw [hpending] at hg
    cases hg
  · intro g hg
    rw [hpending] at hg
    cases hg

end Coalesced

/-! ## What waits -/

/-- A proposal waits, in the place of the one before, and nothing else makes one wait. -/
private theorem pending_perform (s : State) (a : Act) :
    a.clears = true ∧ (s.perform a).state.viewport.pending = none ∨
      (s.perform a).state.viewport.pending = (s.proposal? a).or s.viewport.pending := by
  cases s.shift_perform a with
  | proposed g serial hp hs hv =>
    rw [hv, hp]
    exact .inr rfl
  | announced g ha hv =>
    rw [hv, ha]
    exact .inr rfl
  | cancelled ha hd hv =>
    rw [hv, ha]
    exact .inl ⟨rfl, rfl⟩
  | moved moment ha hv =>
    rw [hv, ha]
    exact .inr rfl
  | settled ha hv =>
    rw [hv, ha]
    exact .inl ⟨rfl, (Viewport.settle_settled s.viewport).1⟩
  | kept hp hs hv =>
    rw [hv, hp]
    exact .inr rfl

private theorem pending_performAll {s : State} {as : List Act}
    (has : ∀ a ∈ as, a.clears = false) :
    (s.performAll as).state.viewport.pending =
      ((s.proposalsOf as).getLast?.map Proposal.geometry).or s.viewport.pending := by
  induction as generalizing s with
  | nil => rfl
  | cons a as ih =>
    have hrest := ih (s := (s.perform a).state) fun b hb => has b (List.mem_cons_of_mem a hb)
    rcases pending_perform s a with ⟨hclears, -⟩ | hkept
    · rw [has a List.mem_cons_self] at hclears
      cases hclears
    · rw [hkept, ← Option.or_assoc] at hrest
      rw [proposalsOf, List.getLast?_append]
      refine hrest.trans (congrArg (Option.or · s.viewport.pending) ?_)
      cases s.proposal? a <;> cases ((s.perform a).state.proposalsOf as).getLast? <;> rfl

/-! ## The end of the session -/

private theorem none_pending_performAll {s : State} {as : List Act}
    (hp : s.viewport.pending = none) (has : s.proposalsOf as = []) :
    (s.performAll as).state.viewport.pending = none := by
  induction as generalizing s with
  | nil => exact hp
  | cons a as ih =>
    rw [proposalsOf, List.append_eq_nil_iff, List.map_eq_nil_iff, Option.toList_eq_nil_iff] at has
    refine ih ?_ has.2
    rcases pending_perform s a with ⟨-, hcleared⟩ | hkept
    · exact hcleared
    · rw [hkept, has.1, hp]
      rfl

private theorem proposalsOf_of_dead {s : State} {as : List Act} (ha : s.isAlive = false)
    (hp : ∀ g, .aside (.propose g) ∉ as) : s.proposalsOf as = [] := by
  induction as generalizing s with
  | nil => rfl
  | cons a as ih =>
    have hnone : s.proposal? a = none := by
      unfold proposal?
      split
      · next g => exact absurd List.mem_cons_self (hp g)
      · rw [ha]
        rfl
      · rfl
    have hdead : (s.perform a).state.isAlive = false := by
      have hall := isAlive_performAll_of_dead ha [a]
      rwa [performAll_singleton] at hall
    rw [proposalsOf, hnone, ih hdead fun g hg => hp g (List.mem_cons_of_mem a hg)]
    rfl

/-- After the end of the session nothing is proposed. -/
theorem proposals_of_dead {s : State} (h : s.Coherent) (ha : s.isAlive = false) (x : Stimulus) :
    s.proposals x = [] := by
  rw [← proposalsOf_acts h]
  apply proposalsOf_of_dead ha
  intro g hg
  rcases cause_of_acts hg with ⟨key, d, rfl⟩ | ⟨key, rfl⟩
  · rw [acts, ha] at hg
    cases hg
  · rw [acts, ha] at hg
    cases hg

/-- After the end of the session no proposal waits. -/
def Resigned (s : State) : Prop := s.isAlive = false → s.viewport.pending = none

theorem resigned_respond {s : State} (h : s.Coherent) (hr : s.Resigned) (x : Stimulus) :
    (s.respond x).state.Resigned := by
  intro hd
  cases ha : s.isAlive with
  | false =>
    rw [respond_eq h.roster]
    apply none_pending_performAll (hr ha)
    rw [proposalsOf_acts h, proposals_of_dead h ha]
  | true =>
    have hx : x = .inbound .sessionEnd := by
      by_contra hx
      rw [(isAlive_respond h x).mpr ⟨ha, hx⟩] at hd
      cases hd
    rw [hx, respond, if_pos ha, apply, terminate, if_pos ha]
    rfl

/-- After a response the latest of its proposals waits. Without one, the proposal that waited goes
on to wait, until it is settled or the session ends. -/
theorem pending_respond {s : State} (h : s.Coherent) (hr : s.Resigned) (x : Stimulus) :
    (s.respond x).state.viewport.pending =
      if x.clears then none
      else ((s.proposals x).getLast?.map Proposal.geometry).or s.viewport.pending := by
  cases hx : x.clears with
  | true =>
    rw [if_pos rfl]
    unfold Stimulus.clears at hx
    split at hx
    · show s.settle.state.viewport.pending = none
      rw [settle_eq]
      exact (Viewport.settle_settled s.viewport).1
    · cases ha : s.isAlive with
      | false =>
        rw [respond, if_neg (by rw [ha]; decide)]
        exact hr ha
      | true =>
        rw [respond, if_pos ha, apply, terminate, if_pos ha]
        rfl
    · cases hx
  | false =>
    rw [if_neg (by decide), respond_eq h.roster, ← proposalsOf_acts h]
    apply pending_performAll
    intro a ha
    unfold Act.clears
    split
    · rw [cause_of_acts ha] at hx
      cases hx
    · rw [(cause_of_mem_acts ha).2 rfl] at hx
      cases hx
    · rfl

/-- What settles is sent. -/
theorem sizes_settle {s : State} (hr : s.Resigned) :
    s.sizes (.event .resizeSettled) = s.viewport.settle.1.toList := by
  show Effect.sizes s.settle.effects = s.viewport.settle.1.toList
  rw [settle_eq]
  cases hg : s.viewport.settle.1 with
  | none => cases s.isAlive <;> rfl
  | some g =>
    -- What waits was proposed while the session was alive, and no session comes back.
    have ha : s.isAlive = true := by
      by_contra hdead
      have hnone := hr (Bool.not_eq_true _ ▸ hdead)
      rw [((Viewport.settle_eq_some_iff s.viewport g).mp hg).1] at hnone
      cases hnone
    rw [ha]
    rfl

/-! ## Whole runs -/

/-- Nothing is sent but in response to the event of a debounce. -/
theorem sizes_eq_nil {s : State} (h : s.Coherent) {x : Stimulus} (hx : x ≠ .event .resizeSettled) :
    s.sizes x = [] := by
  rw [List.eq_nil_iff_forall_not_mem]
  intro g hg
  have he : .emit (.viewportResize g) ∈ (s.respond x).effects := Effect.mem_sizes.mp hg
  rw [respond_eq h.roster] at he
  obtain ⟨a, ha, rfl⟩ := reason_of_performAll he
  exact hx (cause_of_acts ha)

/-- What every response keeps. -/
theorem Coalesced.respond {s : State} (h : s.Coherent) (hr : s.Resigned)
    {proposed : List Proposal} {sent : List Geometry} {queue : List Nat}
    (hc : s.Coalesced proposed sent queue) (x : Stimulus) :
    (s.respond x).state.Coalesced (proposed ++ s.proposals x) (sent ++ s.sizes x)
      (s.settling queue x) := by
  by_cases hpass : ∃ moment, x = .pass moment
  · obtain ⟨moment, rfl⟩ := hpass
    have hnone : s.proposals (.pass moment) = [] := (proposalsOf_acts h _).symm
    rw [hnone, List.append_nil, sizes, State.respond, Effect.sizes_nil, List.append_nil]
    exact hc.moveState moment
  · by_cases hsettle : x = .event .resizeSettled
    · subst hsettle
      have hnone : s.proposals (.event .resizeSettled) = [] := (proposalsOf_acts h _).symm
      rw [hnone, List.append_nil, sizes_settle hr]
      exact hc.settle (s.settling queue (.event .resizeSettled))
    · have hmove : ∀ a ∈ s.acts x, ∀ moment, a ≠ .moveTo moment := by
        rintro a ha moment rfl
        exact hpass ⟨moment, cause_of_acts ha⟩
      have hkeep : ∀ a ∈ s.acts x, a ≠ .aside .settle := by
        rintro a ha rfl
        exact hsettle (cause_of_acts ha)
      rw [settling_of_other hpass hsettle, sizes_eq_nil h hsettle, List.append_nil,
        respond_eq h.roster, ← proposalsOf_acts h]
      exact hc.performAll hmove hkeep

theorem coalesced_run (id : String) (setup : Setup) (xs : List Stimulus) :
    ((initial id setup).run xs).state.Resigned ∧
      ((initial id setup).run xs).state.Coalesced ((initial id setup).gather proposals xs)
        ((initial id setup).gather sizes xs) ((initial id setup).settlingAfter [] xs) := by
  have hall {s : State} (h : s.Coherent) (hr : s.Resigned) {proposed : List Proposal}
      {sent : List Geometry} {queue : List Nat} (hc : s.Coalesced proposed sent queue) :
      (s.run xs).state.Resigned ∧
        (s.run xs).state.Coalesced (proposed ++ s.gather proposals xs)
          (sent ++ s.gather sizes xs) (s.settlingAfter queue xs) := by
    induction xs generalizing s proposed sent queue with
    | nil =>
      rw [gather, gather, List.append_nil, List.append_nil]
      exact ⟨hr, hc⟩
    | cons x xs ih =>
      have hrest := ih (h.respond x) (resigned_respond h hr x) (hc.respond h hr x)
      rw [List.append_assoc, List.append_assoc] at hrest
      exact hrest
  have hc : (initial id setup).Coalesced [] [] [] := by
    constructor
    · rfl
    · rintro g ⟨⟩
    · rintro g ⟨⟩
  exact hall (Coherent.initial id setup) (fun _ => rfl) hc

/-- In every run, what is proposed waits from then on, until another geometry is proposed or it is
settled or the session ends: of the geometries proposed only the latest waits, with a debounce that
is to fire or whose event is to be handled. A geometry is sent when such an event is handled, and
only then: it is the latest proposal, has cells, and is not the one that was sent last; and so every
proposal that waits until then has been sent, if it has cells. A geometry that is pushed sends
nothing and leaves the proposal, its debounce and what was sent last alone. -/
theorem resizes_coalesced (id : String) (setup : Setup) (xs : List Stimulus) :
    let s := ((initial id setup).run xs).state
    let latest := ((initial id setup).gather proposals xs).getLast?.map Proposal.geometry
    let sent := (initial id setup).gather sizes xs
    s.viewport.lastSent = sent.getLast? ∧
    (∀ x, (s.respond x).state.viewport.pending =
      if x.clears then none
      else ((s.proposals x).getLast?.map Proposal.geometry).or s.viewport.pending) ∧
    (∀ g, s.viewport.pending = some g → latest = some g ∧
      ∃ timer, s.viewport.debounce = some timer ∧
        (timer.due.isSome = true ∨ timer.serial ∈ (initial id setup).settlingAfter [] xs)) ∧
    (∀ x, (s.sizes x).length ≤ 1 ∧ ∀ g ∈ s.sizes x, x = .event .resizeSettled ∧
      latest = some g ∧ g.isDegenerate = false ∧ sent.getLast? ≠ some g) ∧
    (∀ g, s.sizes (.inbound (.viewportResize g)) = [] ∧
      s.proposals (.inbound (.viewportResize g)) = [] ∧
      (s.respond (.inbound (.viewportResize g))).state.viewport =
        if s.isAlive then s.viewport.announce g else s.viewport) ∧
    (∀ g, s.viewport.pending = some g → g.isDegenerate = false →
      (sent ++ s.sizes (.event .resizeSettled)).getLast? = some g) := by
  intro s latest sent
  have h : s.Coherent := coherent_run id setup xs
  obtain ⟨hr, hc⟩ := coalesced_run id setup xs
  have hsizes : s.sizes (.event .resizeSettled) = s.viewport.settle.1.toList := sizes_settle hr
  refine ⟨hc.lastSent, pending_respond h hr, ?_, ?_, ?_, ?_⟩
  · intro g hg
    exact ⟨hc.latest g hg, hc.armed g hg⟩
  · intro x
    by_cases hx : x = .event .resizeSettled
    · subst hx
      rw [hsizes]
      constructor
      · cases s.viewport.settle.1 <;> simp
      · intro g hg
        rw [Option.mem_toList] at hg
        obtain ⟨hpending, hcells, hnew⟩ := (Viewport.settle_eq_some_iff s.viewport g).mp hg
        rw [hc.lastSent] at hnew
        exact ⟨rfl, hc.latest g hpending, hcells, hnew⟩
    · rw [sizes_eq_nil h hx]
      exact ⟨Nat.zero_le 1, by rintro g ⟨⟩⟩
  · intro g
    refine ⟨sizes_eq_nil h (by simp), (proposalsOf_acts h _).symm.trans ?_, ?_⟩
    · rw [acts]
      split <;> rfl
    · rw [respond]
      split <;> rfl
  · intro g hg hcells
    have hsettled := Viewport.lastSent_settle_of_pending hg hcells
    rw [Viewport.lastSent_settle, hc.lastSent] at hsettled
    rw [hsizes, List.getLast?_append, ← hsettled]
    cases s.viewport.settle.1 <;> rfl

/-- Two geometries are proposed within the time of the debounce, and the second one is sent. -/
theorem resizes_coalesced_in_burst :
    let small : Geometry := { cols := 80, rows := 24 }
    let large : Geometry := { cols := 100, rows := 30 }
    let xs : List Stimulus :=
      [.command "k" (.resize small), .pass 50, .command "k" (.resize large), .pass 150]
    let s := ((initial "s1" {}).run xs).state
    let t := (s.respond (.event .resizeSettled)).state
    (initial "s1" {}).gather proposals xs = [⟨small, 0⟩, ⟨large, 50⟩] ∧
      (initial "s1" {}).gather sizes xs = [] ∧ s.viewport.pending = some large ∧
      s.sizes (.event .resizeSettled) = [large] ∧ t.viewport.pending = none ∧
      t.viewport.lastSent = some large := by
  intro small large xs s t
  have hpending : s.viewport.pending = some large := by decide +kernel
  have hsent : (initial "s1" {}).gather sizes xs = [] := by decide +kernel
  obtain ⟨-, hwaits, -, hone, -, hlast⟩ := resizes_coalesced "s1" {} xs
  have hsettled := hlast large hpending rfl
  rw [hsent, List.nil_append] at hsettled
  have hsizes : s.sizes (.event .resizeSettled) = [large] := by
    obtain ⟨hlength, -⟩ := hone (.event .resizeSettled)
    cases hs : s.sizes (.event .resizeSettled) with
    | nil =>
      rw [hs] at hsettled
      cases hsettled
    | cons g rest =>
      rw [hs] at hlength
      have hrest : rest = [] := by simpa using hlength
      rw [hs, hrest, List.getLast?_singleton] at hsettled
      rw [hrest, Option.some.inj hsettled]
  exact ⟨by decide +kernel, hsent, hpending, hsizes, hwaits (.event .resizeSettled),
    by decide +kernel⟩

end State
end TermSync.Session

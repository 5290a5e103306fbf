import TermSync.Proofs.Config
import TermSync.Proofs.Session.Clock
import TermSync.Proofs.Session.Pairing
import TermSync.Proofs.Session.Typing

/-!
# When input is sent

The flush timer of an instance with a widget never waits longer than the flush interval, and it goes
on until the instance is taken out. So as time passes, a flush interval later at the latest it is
told that the instance's input is to be sent, unless the interval is zero: then this is never told.
When it is handled, all of the input that was accepted is sent, if its last character is complete.
A configuration file may set the interval to zero, and no variable can.

`Pace` says what an act does to the timer of an instance. Main statements: `punctual_run`,
`raised_of_interval`, `raised_of_zero`, `sent_of_flushTick` and `configured_input_sent_iff`.
-/

namespace TermSync.Roster

/-- The timer that tells when an instance's input is to be sent: that of an instance with a
widget. -/
def Instance.sender (i : Instance) : Option Time.Timer :=
  if i.screen.isAttached then i.flushTimer else none

namespace Instance

/-- To take what was typed leaves the timer alone. -/
theorem sender_takeTyped (i : Instance) : i.takeTyped.2.sender = i.sender := by
  unfold takeTyped
  dsimp only
  split <;> rfl

/-- So does what happens to the screen, as long as its widget stays. -/
theorem sender_withScreen (i : Instance) {screen : Terminal.Screen}
    (h : screen.widget = i.screen.widget) : { i with screen }.sender = i.sender := by
  show (if screen.isAttached then i.flushTimer else none) = _
  rw [Terminal.Screen.isAttached, h]
  rfl

end Instance

end TermSync.Roster

namespace TermSync.Session

open Roster (Instance)
open Terminal (Screen)
open Text (Bytes)
open Text.Utf8 (decodeLossy decodeLossy_held encode unfinished)
open Time (Timer)

namespace State

theorem lasting_sender : Lasting Instance.sender none where
  ofRecord _ := rfl
  merge _ _ := rfl
  provisional _ := rfl
  note n i := by cases n <;> rfl

/-- The timer that tells when the input of the instance with a name is to be sent. -/
def sender (s : State) (name : String) : Option Timer := s.held Instance.sender none name

theorem sender_of_get? {s : State} {name : String} {i : Instance}
    (h : s.roster.get? name = some i) : s.sender name = i.sender := held_of_get? h

/-! ## What acts do to the timers -/

/-- What an act does to the timer of the instance with a name: nothing, or it fires as time passes,
is dropped with the instance, or is started with its widget. -/
inductive Pace (s : State) (a : Act) (name : String) (t : State) : Prop where
  | kept (hm : ∀ moment, a ≠ .moveTo moment) (h : t.sender name = s.sender name)
  | moved (moment : Nat) (ha : a = .moveTo moment)
      (h : t.sender name = (s.sender name).map fun timer => timer.advance moment)
  | dropped (hr : a.removes name = true) (h : t.sender name = none)
  | started (serial : Nat) (ha : a = .display name) (hs : s.sender name = none)
      (h : t.sender name = some (.every s.now s.setup.flushInterval serial))

private theorem pace_display (s : State) (n name : String) :
    s.Pace (.display n) name (s.perform (.display n)).state := by
  rcases display_cases s n with ⟨i, w, -, -, -, hd⟩ | ⟨i, _, _, -, hi, hw, hd⟩ | ⟨-, hd⟩
  · rw [hd]
    exact .kept nofun rfl
  · have hg := get?_openedRoster s n name i
    rw [hd]
    by_cases hn : name = n
    · subst hn
      rw [if_pos rfl, hi, Option.map_some] at hg
      refine .started (s.nextSerial + 1) rfl ?_ ?_
      · rw [sender_of_get? hi, Instance.sender, Screen.isAttached, hw]
        rfl
      · exact congrArg (fun i => (i.map Instance.sender).getD none) hg
    · rw [if_neg hn] at hg
      exact .kept nofun (held_of_eq hg)
  · rw [hd]
    exact .kept nofun rfl

/-- Output touches the screen, and leaves its widget there. -/
private theorem sender_route (s : State) (n name : String) (data : Bytes) :
    (s.perform (.route n data)).state.sender name = s.sender name := by
  have hg := Roster.get?_route s.roster n name data
  by_cases hn : name = n
  · subst hn
    rw [if_pos rfl] at hg
    rw [sender_of_get? (s := (s.perform (.route name data)).state) hg, sender, held]
    rw [Instance.sender_withScreen _ (Screen.widget_deliver _ data)]
    cases s.roster.get? name <;> rfl
  · rw [if_neg hn] at hg
    exact held_of_eq hg

private theorem sender_resizeAll (s : State) (g : Terminal.Geometry) (name : String) :
    (s.resizeAll g).state.sender name = s.sender name := by
  have hg := Roster.get?_resizeAll s.roster g name
  unfold sender held resizeAll
  simp only [hg]
  cases s.roster.get? name with
  | none => rfl
  | some i => exact i.sender_withScreen (Screen.widget_resize i.screen g)

private theorem sender_flush (s : State) (n name : String) :
    (s.flush n).state.sender name = s.sender name := by
  cases hi : s.roster.get? n with
  | none => rw [flush_eq_of_none hi]
  | some i =>
    rw [flush_eq hi]
    apply held_update
    intro j hj
    rw [hi] at hj
    cases hj
    exact i.sender_takeTyped

private theorem sender_moveTo (s : State) (moment : Nat) (name : String) :
    (Loop.moveState moment s).sender name =
      (s.sender name).map fun timer => timer.advance moment := by
  have hg := Roster.get?_moveTo s.roster moment name
  unfold sender held Loop.moveState
  simp only [hg]
  cases s.roster.get? name with
  | none => rfl
  | some i =>
    show (if i.screen.isAttached then i.flushTimer.map _ else none) = _
    unfold Instance.sender
    cases hw : i.screen.isAttached <;> simp [hw]

private theorem pace_of_spares (s : State) {a : Act} (ha : a.spares = true)
    (hm : ∀ moment, a ≠ .moveTo moment) {name : String} (hr : a.removes name = false) :
    s.Pace a name (s.perform a).state :=
  .kept hm (held_of_lasting lasting_sender s ha hm hr)

private theorem pace_forget (s : State) (n name : String) :
    s.Pace (.forget n) name (s.perform (.forget n)).state := by
  by_cases hn : n = name
  · subst hn
    have hnone : (s.perform (.forget n)).state.roster.get? n = none := by
      rw [perform, get?_forget, if_pos rfl]
    refine .dropped (beq_self_eq_true n) ?_
    rw [sender, held, hnone]
    rfl
  · exact pace_of_spares s rfl (by simp) (beq_false_of_ne hn)

private theorem pace_terminate (s : State) (name : String) :
    s.Pace .terminate name (s.perform .terminate).state := by
  rw [perform, terminate]
  split
  · exact .dropped rfl rfl
  · exact .kept (by simp) rfl

/-- What each act does to a timer. -/
theorem pace_perform (s : State) (a : Act) (name : String) :
    s.Pace a name (s.perform a).state := by
  cases a with
  | display n => exact pace_display s n name
  | route n data => exact .kept nofun (sender_route s n name data)
  | resizeAll g => exact .kept nofun (sender_resizeAll s g name)
  | type n data => exact .kept nofun (held_update s n name _ fun i _ => rfl)
  | flush n => exact .kept nofun (sender_flush s n name)
  | moveTo moment => exact .moved moment rfl (sender_moveTo s moment name)
  | forget n => exact pace_forget s n name
  | terminate => exact pace_terminate s name
  | learn record => exact pace_of_spares s rfl (by nofun) rfl
  | expect key => exact pace_of_spares s rfl (by nofun) rfl
  | note n news => exact pace_of_spares s rfl (by nofun) rfl
  | aside a => exact pace_of_spares s rfl (by nofun) rfl

/-! ## The timers during a run -/

/-- Every timer that tells when input is to be sent fires within a flush interval, and again within
another one. -/
def Punctual (s : State) : Prop :=
  ∀ name timer, s.sender name = some timer → timer.Paced s.setup.flushInterval s.now

/-- Every act keeps the timers so, as long as it does not turn the clock back. -/
theorem Punctual.perform {s : State} (h : s.Punctual) {a : Act} (hnow : s.now ≤ s.clockAfter a) :
    (s.perform a).state.Punctual := by
  obtain ⟨hsetup, hclock, -⟩ := frame_perform s a
  intro name timer ht
  rw [hsetup, hclock]
  cases s.pace_perform a name with
  | kept hm hkept => exact (h name timer (hkept ▸ ht)).later hnow
  | moved moment ha hmoved =>
    subst ha
    obtain ⟨before, hbefore, rfl⟩ := Option.map_eq_some_iff.mp (hmoved.symm.trans ht)
    exact (h name before hbefore).advance hnow
  | dropped hr hnone =>
    rw [hnone] at ht
    cases ht
  | started serial ha hs hstarted =>
    obtain rfl := Option.some.inj (hstarted.symm.trans ht)
    exact (Timer.paced_every s.now s.setup.flushInterval serial).later hnow

theorem Punctual.respond {s : State} (h : s.Punctual) (hs : s.Coherent) {x : Stimulus}
    (hnow : s.now ≤ x.clock s.now) : (s.respond x).state.Punctual :=
  respond_induction hs h hnow fun _ _ _ hclock ht => ht.perform hclock

/-- In a forward run the timers stay so. -/
theorem Punctual.run {s : State} (h : s.Punctual) (hs : s.Coherent) {xs : List Stimulus}
    (hf : Forward s.now xs) : (s.run xs).state.Punctual :=
  forward_induction hs h hf fun _ _ ht _ hnow hp => hp.respond ht hnow

theorem punctual_run (id : String) (setup : Setup) {xs : List Stimulus} (hf : Forward 0 xs) :
    ((initial id setup).run xs).state.Punctual := by
  have hfirst : (initial id setup).Punctual := by
    intro name timer ht
    cases ht
  exact hfirst.run (Coherent.initial id setup) hf

/-- As long as its instance is not taken out and no time passes, a timer stays as it is. -/
theorem sender_respond {s : State} (h : s.Coherent) {name : String} {timer : Timer}
    (ht : s.sender name = some timer) {x : Stimulus} (hx : x.removes name = false)
    (hpass : ∀ moment, x ≠ .pass moment) : (s.respond x).state.sender name = some timer := by
  have hall (as : List Act) (has : ∀ a ∈ as, a ∈ s.acts x) {t : State}
      (ht : t.sender name = some timer) : (t.performAll as).state.sender name = some timer := by
    induction as generalizing t with
    | nil => exact ht
    | cons a as ih =>
      have ha := has a List.mem_cons_self
      refine ih (fun b hb => has b (List.mem_cons_of_mem a hb)) ?_
      cases t.pace_perform a name with
      | kept hm hkept => exact hkept.trans ht
      | moved moment he hmoved =>
        subst he
        exact absurd (cause_of_acts ha) (hpass moment)
      | dropped hr hnone =>
        rw [removes_of_mem_acts hx ha] at hr
        cases hr
      | started serial he hs hstarted =>
        rw [hs] at ht
        cases ht
  rw [respond_eq h.roster]
  exact hall _ (fun _ ha => ha) ht

/-- With a widget there is a timer. -/
theorem exists_sender {s : State} (hp : s.Paired) {name : String} {i : Instance}
    (hi : s.roster.get? name = some i) (ha : i.screen.isAttached = true) :
    ∃ timer, s.sender name = some timer := by
  have ht := hp.timer_iff hi
  rw [ha] at ht
  rw [sender_of_get? hi, Instance.sender, if_pos ha]
  exact Option.isSome_iff_exists.mp ht

/-! ## What is told -/

/-- What is told as time passes: that it is time to send the input of the instance with a name. -/
def raised (name : String) (s : State) : Stimulus → List Firing
  | .pass moment => (Loop.stateFirings moment s).filter (Firing.ticksFor name)
  | _ => []

/-- It is told by the instance's own timer. -/
private theorem raised_pass {s : State} {name : String} {timer : Timer}
    (ht : s.sender name = some timer) (moment : Nat) :
    s.raised name (.pass moment) =
      Loop.timerFirings moment (.flushTick name) (some timer) := by
  rw [raised, ticks_eq]
  unfold sender held at ht
  cases hi : s.roster.get? name with
  | none =>
    rw [hi] at ht
    cases ht
  | some i =>
    rw [hi] at ht
    have hsender : i.sender = some timer := ht
    unfold Instance.sender at hsender
    split at hsender
    · rw [Option.bind_some, hsender]
    · cases hsender

/-- Whatever comes in between, when time has passed until the timer is due it has been told that the
input is to be sent. -/
private theorem raised_of_due {s : State} (h : s.Coherent) (hp : s.Punctual) {name : String}
    {timer : Timer} (ht : s.sender name = some timer) {due : Nat} (hd : timer.due = some due)
    {ys : List Stimulus} {moment : Nat} (hf : Forward s.now (ys ++ [.pass moment]))
    (hl : ∀ y ∈ ys, y.removes name = false) (hm : due ≤ moment) :
    s.gather (raised name) (ys ++ [.pass moment]) ≠ [] := by
  have hfires {s : State} (hp : s.Punctual) (ht : s.sender name = some timer) {m : Nat}
      (hm : due ≤ m) : s.raised name (.pass m) ≠ [] := by
    rcases (hp name timer ht).fires_or_waits hd m with ⟨-, hfires⟩ | ⟨hwaits, -⟩
    · rw [raised_pass ht]
      exact mt List.map_eq_nil_iff.mp hfires
    · omega
  induction ys generalizing s with
  | nil =>
    rw [List.nil_append, gather, gather, List.append_nil]
    exact hfires hp ht hm
  | cons y ys ih =>
    rw [List.cons_append, gather]
    have hrest (ht : (s.respond y).state.sender name = some timer) :
        (s.respond y).state.gather (raised name) (ys ++ [.pass moment]) ≠ [] := by
      have hf' : Forward (s.respond y).state.now (ys ++ [.pass moment]) := by
        rw [now_respond h]
        exact hf.2
      exact ih (h.respond y) (hp.respond h hf.1) ht hf' fun z hz => hl z (List.mem_cons_of_mem y hz)
    have hlater (ht : (s.respond y).state.sender name = some timer) :
        s.raised name y ++ (s.respond y).state.gather (raised name) (ys ++ [.pass moment]) ≠ [] :=
      fun hnil => hrest ht (List.append_eq_nil_iff.mp hnil).2
    by_cases hpass : ∃ m, y = .pass m
    · obtain ⟨m, rfl⟩ := hpass
      rcases (hp name timer ht).fires_or_waits hd m with ⟨hdue, -⟩ | ⟨-, hsame⟩
      · exact fun hnil => hfires hp ht hdue (List.append_eq_nil_iff.mp hnil).1
      · apply hlater
        show (Loop.moveState m s).sender name = some timer
        rw [sender_moveTo, ht, Option.map_some, hsame]
    · exact hlater (sender_respond h ht (hl y List.mem_cons_self) fun m he => hpass ⟨m, he⟩)

/-- With a flush interval above zero: when it has passed, it has been told that the input is to be
sent. -/
theorem raised_of_interval {s : State} (h : s.Coherent) (hp : s.Punctual) {name : String}
    {timer : Timer} (ht : s.sender name = some timer) (hs : s.setup.flushInterval ≠ 0)
    {ys : List Stimulus} {moment : Nat} (hf : Forward s.now (ys ++ [.pass moment]))
    (hl : ∀ y ∈ ys, y.removes name = false) (hm : s.now + s.setup.flushInterval ≤ moment) :
    s.gather (raised name) (ys ++ [.pass moment]) ≠ [] := by
  obtain ⟨due, hd, hle⟩ := (hp name timer ht).due hs
  exact raised_of_due h hp ht hd hf hl (Nat.le_trans hle hm)

/-- No timer tells it if the flush interval is zero. -/
private theorem raised_eq_nil {s : State} (hpair : s.Paired) (hp : s.Punctual)
    (hs : s.setup.flushInterval = 0) (name : String) (y : Stimulus) : s.raised name y = [] := by
  cases y with
  | pass moment =>
    cases ht : s.sender name with
    | some timer =>
      have hpaced := hp name timer ht
      rw [hs] at hpaced
      rw [raised_pass ht, Loop.timerFirings, hpaced.firings_of_zero]
      rfl
    | none =>
      -- Only instances with a widget have a timer.
      rw [raised, ticks_eq]
      cases hi : s.roster.get? name with
      | none => rfl
      | some i =>
        have htimer := hpair.timer_iff hi
        rw [sender_of_get? hi, Instance.sender, ← htimer] at ht
        rw [Option.bind_some]
        cases hflush : i.flushTimer with
        | none => rfl
        | some timer =>
          rw [hflush] at ht
          cases ht
  | _ => rfl

/-- With a flush interval of zero this is never told. -/
theorem raised_of_zero {s : State} (h : s.Coherent) (hpair : s.Paired) (hp : s.Punctual)
    (hs : s.setup.flushInterval = 0) (name : String) {ys : List Stimulus}
    (hf : Forward s.now ys) : s.gather (raised name) ys = [] := by
  induction ys generalizing s with
  | nil => rfl
  | cons y ys ih =>
    have hrest : (s.respond y).state.gather (raised name) ys = [] := by
      apply ih (h.respond y) (hpair.respond h y) (hp.respond h hf.1)
      · rw [setup_respond h, hs]
      · rw [now_respond h]
        exact hf.2
    rw [gather, hrest, List.append_nil]
    exact raised_eq_nil hpair hp hs name y

/-! ## What is sent -/

/-- Until it is handled that input is to be sent, none is sent. -/
theorem sent_of_no_tick {s : State} (h : s.Coherent) {ys : List Stimulus}
    (hy : ∀ y ∈ ys, ∀ n, y ≠ .event (.flushTick n)) (name : String) :
    Effect.sent name (s.run ys).effects = [] := by
  induction ys generalizing s with
  | nil => rfl
  | cons y ys ih =>
    have hacts : ∀ a ∈ s.acts y, ∀ n, a ≠ .flush n := by
      intro a ha n he
      subst he
      exact hy y List.mem_cons_self n (cause_of_acts ha)
    have hnow : Effect.sent name (s.respond y).effects = [] := by
      rw [respond_eq h.roster]
      exact sent_performAll s hacts name
    have hrest := ih (h.respond y) fun z hz => hy z (List.mem_cons_of_mem y hz)
    rw [run_cons, Step.andThen, Effect.sent_append, hnow, hrest]
    rfl

/-- When it is handled, all of the text is sent that was accepted in the lifetime of an instance, if
its last character is complete: whatever was accepted before the text, and what after it. -/
theorem sent_of_flushTick {s : State} (h : s.Coherent) {name : String} {x : Stimulus}
    (hx : name ∈ s.arrivals x) {life : List Stimulus} (hl : ∀ y ∈ life, y.removes name = false)
    {before : Bytes} {text : List Char} (htext : text ≠ []) {more : Bytes}
    (ht : s.gather (accepted name) (x :: life) = before ++ encode text ++ more) :
    decodeLossy before ++ text <+:
      Effect.sent name (s.run (x :: (life ++ [.event (.flushTick name)]))).effects := by
  let t := (s.run (x :: life)).state
  have hl' : ∀ y ∈ life ++ [.event (.flushTick name)], y.removes name = false := by
    intro y hy
    rcases List.mem_append.mp hy with hy | hy
    · exact hl y hy
    · rw [List.mem_singleton.mp hy]
      rfl
  have hrun : s.run (x :: (life ++ [.event (.flushTick name)])) =
      (s.run (x :: life)).andThen fun t => t.run [.event (.flushTick name)] :=
    s.run_append (x :: life) _
  have hinput : s.gather (accepted name) (x :: (life ++ [.event (.flushTick name)])) =
      before ++ encode text ++ more := by
    rw [← List.cons_append, gather_append, ht]
    exact List.append_nil _
  have hkept : (s.run (x :: (life ++ [.event (.flushTick name)]))).state.typed name =
      (t.typed name).drop ((t.typed name).length - unfinished (t.typed name)) := by
    rw [hrun]
    exact t.typed_flush name
  have hsuffix : t.typed name <:+ before ++ encode text ++ more := ht ▸ suffix_lifetime h hx hl
  obtain ⟨now, hnow⟩ := decodeLossy_held before htext more hsuffix
  have hkeeps := keeps_lifetime h hx hl' []
  rw [hinput, hkept, List.append_nil, List.append_nil, hnow] at hkeeps
  rw [← List.append_cancel_right hkeeps]
  exact List.prefix_append _ now

/-! ## Configured sessions -/

/-- Each interval of a run is zero exactly if its variable gives none and the file says zero. In
every session with these intervals, when input has been accepted for an instance with a widget, and
then the flush interval passes, it is told that the input is to be sent exactly if the interval is
not zero. When that is handled, the input has been sent if its last character is complete, and
without it nothing is sent. -/
theorem configured_input_sent_iff (file : Option Bytes) (environment : String → Option String)
    (started : Time.Instant) (id : String) :
    let c := Config.load file environment
    let setup := { Setup.ofConfig c with started }
    (∀ p ∈ Config.intervals, p.2 c = 0 ↔
      (environment p.1).bind Config.interval? = none ∧
        ∃ d, Config.ofFile file = .ok d ∧ p.2 d = 0) ∧
      ∀ (earlier : List Stimulus) (x : Stimulus) (life : List Stimulus) (name : String)
        (i : Instance) (before : Bytes) (text : List Char),
        let began := ((initial id setup).run earlier).state
        let s := (began.run (x :: life)).state
        Forward 0 (earlier ++ x :: life) → name ∈ began.arrivals x →
        (∀ y ∈ life, y.removes name = false) → s.roster.get? name = some i →
        i.screen.isAttached = true → text ≠ [] →
        began.gather (accepted name) (x :: life) = before ++ encode text →
        ∀ ys : List Stimulus, (∀ y ∈ ys, y.removes name = false) →
          (∀ moment, Forward s.now (ys ++ [.pass moment]) → s.now + c.flushInterval ≤ moment →
            (s.gather (raised name) (ys ++ [.pass moment]) ≠ [] ↔ c.flushInterval ≠ 0)) ∧
          decodeLossy before ++ text <+: Effect.sent name
            (began.run (x :: (life ++ ys ++ [.event (.flushTick name)]))).effects ∧
          ((∀ y ∈ ys, ∀ n, y ≠ .event (.flushTick n)) →
            Effect.sent name (s.run ys).effects = []) := by
  intro c setup
  refine ⟨Config.load_eq_zero_iff file environment, ?_⟩
  intro earlier x life name i before text began s hf hx hl hi ha htext ht ys hys
  have hbegan : began.Coherent := coherent_run id setup earlier
  have hs : s = ((initial id setup).run (earlier ++ x :: life)).state := by
    rw [run_append]
    rfl
  have h : s.Coherent := hbegan.run (x :: life)
  have hpair : s.Paired := hs ▸ paired_run id setup _
  have hpunctual : s.Punctual := hs ▸ punctual_run id setup hf
  have hsetup : s.setup = setup := by
    rw [hs]
    exact setup_run (Coherent.initial id setup) _
  have hinterval : s.setup.flushInterval = c.flushInterval := congrArg Setup.flushInterval hsetup
  refine ⟨fun moment hforward hm => ⟨fun htold hzero => ?_, fun hpos => ?_⟩, ?_,
    fun hnone => sent_of_no_tick h hnone name⟩
  · exact htold (raised_of_zero h hpair hpunctual (hinterval.trans hzero) name hforward)
  · obtain ⟨timer, htimer⟩ := exists_sender hpair hi ha
    rw [← hinterval] at hpos hm
    exact raised_of_interval h hpunctual htimer hpos hforward hys hm
  · have hlife : ∀ y ∈ life ++ ys, y.removes name = false := by
      intro y hy
      exact (List.mem_append.mp hy).elim (hl y) (hys y)
    have hinput : began.gather (accepted name) (x :: (life ++ ys)) =
        before ++ encode text ++ s.gather (accepted name) ys := by
      rw [← ht, ← List.cons_append, gather_append]
    exact sent_of_flushTick hbegan hx hlife htext hinput

/-- A configuration file that sets the flush interval to zero: input is accepted and never sent. -/
theorem input_never_sent :
    let file := encode "\x7b\"flush_interval_ms\":0\x7d".toList
    let c := Config.load (some file) fun _ => none
    let x : Stimulus := .inbound (.instanceNew (.named "a"))
    let life : List Stimulus := [.command "k" (.input "a" [0x78])]
    let began := initial "s1" (Setup.ofConfig c)
    let s := (began.run (x :: life)).state
    c.flushInterval = 0 ∧ (s.roster.get? "a").map (·.screen.isAttached) = some true ∧
      began.gather (accepted "a") (x :: life) = encode ['x'] ∧
      s.now + c.flushInterval ≤ 1000000 ∧
      s.gather (raised "a") [.pass 1000000] = [] ∧
      Effect.sent "a" (s.run [.pass 1000000]).effects = [] := by
  intro file c
  have hc : c = { flushInterval := 0 } := by decide +kernel
  rw [hc]
  decide +kernel

/-- One that sets it to 30 ms: a character is sent in time, after a byte that is no text. -/
theorem input_sent_in_time :
    let file := encode "\x7b\"flush_interval_ms\":30\x7d".toList
    let c := Config.load (some file) fun _ => none
    let x : Stimulus := .inbound (.instanceNew (.named "a"))
    let life : List Stimulus :=
      [.command "k" (.input "a" [0xFF]), .pass 20, .command "k" (.input "a" [0xE2, 0x82, 0xAC])]
    let began := initial "s1" (Setup.ofConfig c)
    let s := (began.run (x :: life)).state
    let ys : List Stimulus := [.pass 30, .command "k" (.input "a" [0xC3])]
    Forward 0 (x :: life) ∧ "a" ∈ began.arrivals x ∧ (∀ y ∈ life ++ ys, y.removes "a" = false) ∧
      (s.roster.get? "a").map (·.screen.isAttached) = some true ∧
      began.gather (accepted "a") (x :: life) = [0xFF] ++ encode ['€'] ∧
      Forward s.now (ys ++ [.pass 50]) ∧ s.now + c.flushInterval ≤ 50 ∧
      s.gather (raised "a") (ys ++ [.pass 50]) ≠ [] ∧
      ['\uFFFD', '€'] <+: Effect.sent "a"
        (began.run (x :: (life ++ ys ++ [.event (.flushTick "a")]))).effects := by
  intro file c
  have hc : c = { flushInterval := 30 } := by decide +kernel
  obtain ⟨-, hsent⟩ :=
    configured_input_sent_iff (some file) (fun _ => none) (.ofMillis 0) "s1"
  rw [show Config.load (some file) (fun _ => none) = { flushInterval := 30 } from hc] at hsent
  rw [hc]
  intro x life began s ys
  have hget : (s.roster.get? "a").map (·.screen.isAttached) = some true := by decide +kernel
  obtain ⟨i, hi, ha⟩ := Option.map_eq_some_iff.mp hget
  obtain ⟨htold, hprefix, -⟩ := hsent [] x life "a" i [0xFF] ['€'] (by decide +kernel)
    (by decide +kernel) (by decide +kernel) hi ha (by decide) (by decide +kernel) ys
    (by decide +kernel)
  refine ⟨by decide +kernel, by decide +kernel, by decide +kernel, hget, by decide +kernel,
    by decide +kernel, by decide +kernel, ?_, hprefix⟩
  exact (htold 50 (by decide +kernel) (by decide +kernel)).mpr (by decide)

end State
end TermSync.Session

import TermSync.Proofs.Session.Usage

/-!
# How widgets are opened and used

An instance gets a widget when it is displayed for the first time, and keeps it: there is one at
most in a lifetime. The builder console takes one that is brought to it if it has none, and another
is dropped. Whatever the order in which the instances are visited when a geometry is pushed,
each widget is opened once with what is known and kept then, takes every later geometry, and is left
alone once it was dropped.

Main statements: `opens_of_mem_openings` (which responses open a widget), `openings_eq` (where the
widgets come from), `length_creations_le` (one at most in a lifetime), `usage_of_mayCallAll` (the
order of visits makes no difference) and `use_of_widgets`.
-/

namespace TermSync.Session

open Roster (Instance)
open Terminal (Action Call Geometry ProperUse Screen Widget lastSize mem_usage opening usage
  usage_append)
open Text (Bytes)

/-- The widgets that calls mount. -/
def mounts (calls : List Call) : List Widget :=
  calls.filterMap fun c => if c.action = .mount then some c.widget else none

@[simp] theorem mounts_append (as bs : List Call) : mounts (as ++ bs) = mounts as ++ mounts bs :=
  List.filterMap_append

theorem mem_mounts {calls : List Call} {w : Widget} :
    w ∈ mounts calls ↔ .mount ∈ usage w calls := by
  rw [mem_usage, mounts, List.mem_filterMap]
  constructor
  · rintro ⟨⟨v, a⟩, hc, he⟩
    split at he
    · next ha =>
      cases ha
      cases he
      exact hc
    · cases he
  · intro hc
    exact ⟨_, hc, rfl⟩

theorem mounts_of_drops {calls : List Call} (h : ∀ c ∈ calls, c.action = .drop) :
    mounts calls = [] := by
  rw [mounts, List.filterMap_eq_nil_iff]
  intro c hc
  rw [h c hc]
  rfl

namespace State

/-- The widgets that are opened in response to a stimulus. -/
def openings (s : State) (x : Stimulus) : List Widget := mounts (Effect.calls (s.respond x).effects)

/-- The widgets that are made in response to a stimulus. That of the builder console is not: who
attaches it has made it. -/
def creations (s : State) (x : Stimulus) : List Widget := Effect.made (s.respond x).effects

/-- A response opens a widget by one of its acts: it is for an instance that is there and has none,
or for the builder console that has none, and what this one kept is given. -/
def Opens (s : State) (x : Stimulus) (w : Widget) (backlog : Bytes) : Prop :=
  ∃ before a later, s.acts x = before ++ a :: later ∧
    (s.performAll before).state.OpensBy a w backlog

/-! ## Responses that open a widget -/

private theorem opens_of_mount {s : State} (h : s.Coherent) {a : Act} {w : Widget}
    (hm : .mount ∈ usage w (Effect.calls (s.perform a).effects)) :
    ∃ backlog, s.OpensBy a w backlog := by
  by_cases hnew : s.nextSerial ≤ w.serial
  · rcases usage_of_new h (mem_usage.mp hm) hnew with ho | ⟨-, hrefused⟩
    · exact ho
    · rw [hrefused] at hm
      cases List.mem_singleton.mp hm
  · exfalso
    by_cases hw : s.Attached w
    · by_cases hd : s.Drops w a
      · rw [(usage_of_drops h hw hd).2] at hm
        cases List.mem_singleton.mp hm
      · cases ((usage_of_kept h hw hd).2 _ hm).1
    · rw [(usage_of_gone hw (Nat.lt_of_not_le hnew) a).2] at hm
      cases hm

theorem mounts_of_opens {s : State} {a : Act} {w : Widget} {backlog : Bytes}
    (ho : s.OpensBy a w backlog) : mounts (Effect.calls (s.perform a).effects) = [w] := by
  have hscreen (t : Screen) (v : Widget) (g : Option Geometry) :
      mounts (t.openingCalls v g) = [v] := by
    unfold Screen.openingCalls
    by_cases hb : t.backlog = []
    · rw [if_pos hb]
      cases g <;> rfl
    · rw [if_neg hb]
      cases g <;> rfl
  obtain ⟨-, screen, rest, -, hrest, hcalls⟩ := calls_of_opens ho
  rw [hcalls, mounts_append, hscreen]
  rcases hrest with rfl | rfl <;> rfl

/-- An act that has nothing to do with the builder console opens the widgets that it makes. -/
private theorem mounts_eq_made {s : State} (h : s.Coherent) {a : Act}
    (ha : a ≠ .aside .attachBuilder) :
    mounts (Effect.calls (s.perform a).effects) = Effect.made (s.perform a).effects := by
  by_cases hd : ∃ name, a = .display name
  · obtain ⟨name, rfl⟩ := hd
    rcases display_cases s name with ⟨i, w, -, -, -, hp⟩ | ⟨i, _, _, halive, hi, hw, hp⟩ | ⟨-, hp⟩
    · rw [hp]
      rfl
    · rw [mounts_of_opens (.shown halive hi hw), hp, Effect.made_make, Effect.made_map_call]
    · rw [hp]
      rfl
  · have hmounts : mounts (Effect.calls (s.perform a).effects) = [] := by
      rw [List.eq_nil_iff_forall_not_mem]
      intro w hw
      obtain ⟨backlog, ho⟩ := opens_of_mount h (mem_mounts.mp hw)
      cases ho with
      | shown => exact hd ⟨_, rfl⟩
      | builder => exact ha rfl
    rw [hmounts, List.nil_eq, List.eq_nil_iff_forall_not_mem]
    intro w hw
    exact hd ⟨w.name, reason_of_perform (Effect.mem_made.mp hw)⟩

private theorem mounts_performAll {s : State} (h : s.Coherent) {as : List Act}
    (hnone : ∀ a ∈ as, a ≠ .aside .attachBuilder) :
    mounts (Effect.calls (s.performAll as).effects) = Effect.made (s.performAll as).effects := by
  induction as generalizing s with
  | nil => rfl
  | cons a as ih =>
    rw [performAll_cons, Step.andThen, Effect.calls_append, mounts_append, Effect.made_append,
      mounts_eq_made h (hnone a List.mem_cons_self),
      ih (h.perform a) fun b hb => hnone b (List.mem_cons_of_mem a hb)]

/-- A response opens the widgets that it makes, and the one that was brought to the builder console
if that is taken. -/
theorem openings_eq {s : State} (h : s.Coherent) (x : Stimulus) :
    s.openings x = s.creations x ++ s.broughtBy true x := by
  by_cases hx : x = .attachBuilder
  · subst hx
    have hanswer := s.attachBuilder_answer
    rw [openings, creations, broughtBy, brought, hanswer]
    rcases s.attachBuilder_cases with ⟨hb, hp⟩ | ⟨hb, hp⟩
    · have hmounts := mounts_of_opens (.builder hb)
      rw [perform, performAside] at hmounts
      rw [respond, hmounts, hp, Effect.made_map_call, hb]
      rfl
    · obtain ⟨w, hw⟩ := Option.ne_none_iff_exists'.mp hb
      rw [respond, hp, hw]
      rfl
  · rw [broughtBy_eq_nil hx, List.append_nil, openings, creations, respond_eq h.roster]
    exact mounts_performAll h (attachBuilder_not_mem_acts hx)

theorem creations_attachBuilder (s : State) : s.creations .attachBuilder = [] := by
  rw [creations, respond]
  rcases s.attachBuilder_cases with ⟨-, hp⟩ | ⟨-, hp⟩
  · rw [hp, Effect.made_map_call]
  · rw [hp]
    rfl

/-- A widget that is brought is brought to the builder console, so all others are made. -/
theorem creations_eq_openings {s : State} (h : s.Coherent) {x : Stimulus}
    (hx : x ≠ .attachBuilder) : s.creations x = s.openings x := by
  rw [openings_eq h, broughtBy_eq_nil hx, List.append_nil]

/-- Acts cut at one of them. -/
theorem performAll_split (s : State) (before later : List Act) (a : Act) :
    let u := (s.performAll before).state
    let v := (u.perform a).state
    (s.performAll (before ++ a :: later)).state = (v.performAll later).state ∧
      Effect.calls (s.performAll (before ++ a :: later)).effects =
        Effect.calls (s.performAll before).effects ++
          (Effect.calls (u.perform a).effects ++ Effect.calls (v.performAll later).effects) := by
  intro u v
  rw [performAll_append]
  refine ⟨rfl, ?_⟩
  rw [Step.andThen, Effect.calls_append, performAll_cons, Step.andThen, Effect.calls_append]

/-- A call of a response is made by one of its acts. -/
private theorem exists_act_of_mem_calls {s : State} {as : List Act} {c : Call}
    (hc : c ∈ Effect.calls (s.performAll as).effects) :
    ∃ before a later, as = before ++ a :: later ∧
      c ∈ Effect.calls ((s.performAll before).state.perform a).effects := by
  induction as generalizing s with
  | nil => cases hc
  | cons a as ih =>
    rw [performAll_cons, Step.andThen, Effect.calls_append, List.mem_append] at hc
    rcases hc with hc | hc
    · exact ⟨[], a, as, rfl, hc⟩
    · obtain ⟨before, b, later, rfl, hb⟩ := ih hc
      exact ⟨a :: before, b, later, rfl, hb⟩

/-- A widget that is opened in a response is opened by one of its acts. -/
theorem opens_of_mem_openings {s : State} (h : s.Coherent) {x : Stimulus} {w : Widget}
    (hw : w ∈ s.openings x) : ∃ backlog, s.Opens x w backlog := by
  rw [openings, mem_mounts, mem_usage, respond_eq h.roster] at hw
  obtain ⟨before, a, later, hacts, hc⟩ := exists_act_of_mem_calls hw
  obtain ⟨backlog, ho⟩ := opens_of_mount (h.performAll before) (mem_usage.mpr hc)
  exact ⟨backlog, before, a, later, hacts, ho⟩

/-- A response that opens a widget does nothing else to any, but that it may drop some. -/
private theorem mute_of_opens {s : State} {x : Stimulus} {before later : List Act} {a : Act}
    {w : Widget} {backlog : Bytes} (hacts : s.acts x = before ++ a :: later)
    (ho : (s.performAll before).state.OpensBy a w backlog) :
    ∀ b ∈ before ++ later, b.isMute = true := by
  cases ho with
  | @shown name i ha hi hw =>
    have hm : .display name ∈ s.acts x := by
      rw [hacts]
      exact List.mem_append_right _ List.mem_cons_self
    obtain ⟨first, last, hsplit, hmute⟩ := displaysOnly_acts hm
    -- The display is the only act that is not mute, wherever the acts are split.
    have hnone {bs : List Act} (hbs : ∀ b ∈ bs, b.isMute = true) :
        bs.countP (fun b => !b.isMute) = 0 := by
      apply List.countP_eq_zero.mpr
      intro b hb
      simp [hbs b hb]
    have hone : (s.acts x).countP (fun b => !b.isMute) = 1 := by
      rw [hsplit, List.countP_append, List.countP_cons_of_pos rfl,
        hnone fun b hb => hmute b (List.mem_append_left _ hb),
        hnone fun b hb => hmute b (List.mem_append_right _ hb)]
    rw [hacts, List.countP_append, List.countP_cons_of_pos rfl] at hone
    have hzero : (before ++ later).countP (fun b => !b.isMute) = 0 := by
      rw [List.countP_append]
      omega
    intro b hb
    simpa using List.countP_eq_zero.mp hzero b hb
  | builder hb =>
    have hm : .aside .attachBuilder ∈ s.acts x := by
      rw [hacts]
      exact List.mem_append_right _ List.mem_cons_self
    obtain rfl : x = .attachBuilder := cause_of_acts hm
    have hlength := congrArg List.length hacts
    simp only [acts, List.length_append, List.length_cons, List.length_nil] at hlength
    intro b hb
    have hpos := List.length_pos_of_mem hb
    rw [List.length_append] at hpos
    omega

/-- A response that opens a widget takes no instance out after that. -/
private theorem removes_of_mem_later {s : State} {x : Stimulus} {before later : List Act} {a : Act}
    {w : Widget} {backlog : Bytes} (hacts : s.acts x = before ++ a :: later)
    (ho : (s.performAll before).state.OpensBy a w backlog) (name : String) :
    ∀ b ∈ later, b.removes name = false := by
  have hmem {b : Act} (hb : b ∈ a :: later) : b ∈ s.acts x := by
    rw [hacts]
    exact List.mem_append_right _ hb
  intro b hb
  cases hx : x.removes name with
  | false => exact removes_of_mem_acts hx (hmem (List.mem_cons_of_mem a hb))
  | true =>
    have hmute := mute_of_opens hacts ho
    cases ho with
    | builder hnone =>
      obtain rfl : x = .attachBuilder := cause_of_acts (hmem List.mem_cons_self)
      cases hx
    | @shown n i ha hi hw =>
      have halive : s.isAlive = true := by
        rw [← ha]
        apply (isAlive_performAll _).symm
        rintro c hc rfl
        cases hmute _ (List.mem_append_left _ hc)
      -- The instance is taken out first of all, and no other after it.
      rcases acts_of_removes halive hx with rfl | ⟨m, as, has, -, hkept⟩
      · have hend : s.acts (.inbound .sessionEnd) = [.terminate] := by rw [acts, if_pos halive]; rfl
        have hd := hmem List.mem_cons_self
        rw [hend] at hd
        cases List.mem_singleton.mp hd
      · apply hkept b _ name
        rw [hacts] at has
        cases before with
        | nil => cases has
        | cons c before =>
          rw [List.cons_append, List.cons.injEq] at has
          rw [← has.2]
          exact List.mem_append_right _ (List.mem_cons_of_mem _ hb)

/-! ## One widget in a lifetime -/

private theorem widget_respond {s : State} (h : s.Coherent) {name : String} {w : Widget}
    (hw : (s.screen name).widget = some w) {x : Stimulus} (hx : x.removes name = false) :
    ((s.respond x).state.screen name).widget = some w := by
  have hall {as : List Act} (hr : ∀ a ∈ as, a.removes name = false) {s : State}
      (hw : (s.screen name).widget = some w) :
      ((s.performAll as).state.screen name).widget = some w := by
    induction as generalizing s with
    | nil => exact hw
    | cons a as ih =>
      exact ih (fun b hb => hr b (List.mem_cons_of_mem a hb))
        (widget_stays hw (hr a List.mem_cons_self))
  rw [respond_eq h.roster]
  exact hall (fun a ha => removes_of_mem_acts hx ha) hw

/-- A response that makes a widget makes one, for an instance that has none, and leaves it
attached. -/
theorem creations_cases {s : State} (h : s.Coherent) (x : Stimulus) :
    s.creations x = [] ∨ ∃ w, s.creations x = [w] ∧
      ((s.respond x).state.screen w.name).widget = some w ∧
      (x.removes w.name = false → (s.screen w.name).widget = none) := by
  cases hw : s.creations x with
  | nil => exact .inl rfl
  | cons w ws =>
    right
    have hbuilder : x ≠ .attachBuilder := by
      rintro rfl
      rw [creations_attachBuilder] at hw
      cases hw
    have hx : s.creations x = s.openings x := creations_eq_openings h hbuilder
    have hm : w ∈ s.openings x := by
      rw [← hx, hw]
      exact List.mem_cons_self
    obtain ⟨backlog, before, a, later, hacts, ho⟩ := opens_of_mem_openings h hm
    have hmute := mute_of_opens hacts ho
    have hbefore : ∀ b ∈ before, b.isMute = true := fun b hb => hmute b (List.mem_append_left _ hb)
    have hlater : ∀ b ∈ later, b.isMute = true := fun b hb => hmute b (List.mem_append_right _ hb)
    obtain ⟨hstate, hcalls⟩ := performAll_split s before later a
    rw [← hacts, ← respond_eq h.roster] at hstate hcalls
    have hlast := screen_performAll (s := ((s.performAll before).state.perform a).state) hlater
      (removes_of_mem_later hacts ho w.name)
    have hone : s.creations x = [w] := by
      rw [hx, openings, hcalls, mounts_append, mounts_append,
        mounts_of_drops (drops_performAll hbefore), mounts_of_opens ho,
        mounts_of_drops (drops_performAll hlater)]
      rfl
    cases ho with
    | builder hnone =>
      have hm : .aside .attachBuilder ∈ s.acts x := by
        rw [hacts]
        exact List.mem_append_right _ List.mem_cons_self
      exact absurd (cause_of_acts hm) hbuilder
    | @shown name i ha hi hnone =>
      refine ⟨_, hw ▸ hone, ?_, ?_⟩
      · rw [hstate]
        exact (congrArg Screen.widget hlast).trans (screen_of_shown ha hi hnone)
      · intro hr
        have hfirst : (s.performAll before).state.screen name = s.screen name := by
          apply screen_performAll hbefore
          intro b hb
          apply removes_of_mem_acts hr
          rw [hacts]
          exact List.mem_append_left _ hb
        show (s.screen name).widget = none
        rw [← hfirst, screen_of_get? hi, hnone]

/-- As long as an instance with a widget is not taken out, no other is made for it. -/
private theorem creations_of_attached {s : State} (h : s.Coherent) {name : String} {v : Widget}
    (hv : (s.screen name).widget = some v) {life : List Stimulus}
    (hl : ∀ y ∈ life, y.removes name = false) :
    (s.gather creations life).filter (fun w => w.name = name) = [] := by
  induction life generalizing s with
  | nil => rfl
  | cons y life ih =>
    have hy := hl y List.mem_cons_self
    have hrest := ih (h.respond y) (widget_respond h hv hy) fun z hz =>
      hl z (List.mem_cons_of_mem y hz)
    rw [gather, List.filter_append, hrest, List.append_nil]
    rcases creations_cases h y with hnone | ⟨w, hone, -, hdetached⟩
    · rw [hnone]
      rfl
    · rw [hone, List.filter_eq_nil_iff]
      intro u hu hname
      cases List.mem_singleton.mp hu
      rw [decide_eq_true_eq] at hname
      rw [hname] at hdetached
      rw [hdetached hy] at hv
      cases hv

/-- In a lifetime one widget at most is made for an instance. -/
theorem length_creations_le {s : State} (h : s.Coherent) {name : String} (x : Stimulus)
    {life : List Stimulus} (hl : ∀ y ∈ life, y.removes name = false) :
    ((s.gather creations (x :: life)).filter fun w => w.name = name).length ≤ 1 := by
  induction life generalizing s x with
  | nil =>
    rw [gather, gather, List.append_nil]
    refine Nat.le_trans (List.length_filter_le _ _) ?_
    rcases creations_cases h x with hnone | ⟨w, hone, -, -⟩
    · simp [hnone]
    · simp [hone]
  | cons y life ih =>
    rw [gather, List.filter_append]
    have hrest := ih (h.respond x) y fun z hz => hl z (List.mem_cons_of_mem y hz)
    rcases creations_cases h x with hnone | ⟨w, hone, hattached, -⟩
    · rw [hnone]
      exact hrest
    · by_cases hname : w.name = name
      · -- The first one is made now, so no other is made later.
        rw [hname] at hattached
        rw [creations_of_attached (h.respond x) hattached hl, hone, List.append_nil]
        exact List.length_filter_le _ _
      · rw [hone, List.filter_cons_of_neg (by simpa using hname)]
        exact hrest

/-! ## The order of visits -/

/-- The calls that may be made in response to a stimulus: when a geometry is pushed, the instances
may be visited in any order. -/
inductive MayCall (s : State) : Stimulus → List Call → Prop where
  | listed (x : Stimulus) : MayCall s x (Effect.calls (s.respond x).effects)
  | visited (g : Geometry) {visits : List Instance} (ha : s.isAlive = true)
      (hv : visits.Perm s.roster.entries.values) :
      MayCall s (.inbound (.viewportResize g))
        ((visits.flatMap fun i => (i.screen.resize g).2) ++ (s.builder.resize g).2)

/-- The calls that may be made during a run. -/
inductive MayCallAll : State → List Stimulus → List Call → Prop where
  | nil (s : State) : MayCallAll s [] []
  | cons {s : State} {x : Stimulus} {xs : List Stimulus} {calls more : List Call}
      (hx : s.MayCall x calls) (hxs : MayCallAll (s.respond x).state xs more) :
      MayCallAll s (x :: xs) (calls ++ more)

/-- A widget is on the screen of one instance at most. -/
private theorem length_holders_le {s : State} (h : s.Coherent) (w : Widget) :
    (s.roster.entries.values.filter fun i => i.screen.widget = some w).length ≤ 1 := by
  by_cases hw : ∃ name i, s.roster.get? name = some i ∧ i.screen.widget = some w
  · obtain ⟨name, i, hi, hw⟩ := hw
    obtain ⟨before, later, hs, hothers⟩ := Roster.Table.exists_rows_eq hi
    have hother {rows : List (String × Instance)} (hsub : ∀ r ∈ rows, r ∈ before ++ later) :
        (rows.map Prod.snd).filter (fun j => j.screen.widget = some w) = [] := by
      rw [List.filter_eq_nil_iff]
      intro j hj hv
      obtain ⟨r, hr, rfl⟩ := List.mem_map.mp hj
      obtain ⟨hne, hg⟩ := hothers r (hsub r hr)
      exact hne (h.eq_of_widget hg hi (of_decide_eq_true hv) hw)
    rw [Roster.Table.values, hs, List.map_append, List.map_cons, List.filter_append,
      List.filter_cons_of_pos (by simpa using hw),
      hother fun r hr => List.mem_append_left _ hr, hother fun r hr => List.mem_append_right _ hr]
    exact Nat.le_refl 1
  · rw [List.filter_eq_nil_iff.mpr]
    · exact Nat.zero_le 1
    · intro i hi hv
      obtain ⟨name, hg⟩ := (Roster.Table.mem_values_iff _ i).mp hi
      exact hw ⟨name, i, hg, of_decide_eq_true hv⟩

private theorem usage_of_mayCall {s : State} (h : s.Coherent) {x : Stimulus} {calls : List Call}
    (hc : s.MayCall x calls) (w : Widget) :
    usage w calls = usage w (Effect.calls (s.respond x).effects) := by
  cases hc with
  | listed x => rfl
  | visited g ha hv =>
    have hrespond : s.respond (.inbound (.viewportResize g)) = s.resizeAll g := by
      rw [respond, if_pos ha]
      rfl
    rw [hrespond, calls_resizeAll, usage_append, usage_append,
      Screen.usage_resize_perm hv (length_holders_le h w) g]

/-- The order of visits makes no difference to any widget. -/
theorem usage_of_mayCallAll {s : State} (h : s.Coherent) {xs : List Stimulus} {calls : List Call}
    (hc : s.MayCallAll xs calls) (w : Widget) :
    usage w calls = usage w (Effect.calls (s.run xs).effects) := by
  induction hc with
  | nil s => rfl
  | cons hx hxs ih =>
    rw [usage_append, usage_of_mayCall h hx w, ih (h.respond _), run_cons, Step.andThen,
      Effect.calls_append, usage_append]

/-! ## Whole runs -/

private theorem gather_openings (s : State) (xs : List Stimulus) :
    s.gather openings xs = mounts (Effect.calls (s.run xs).effects) := by
  induction xs generalizing s with
  | nil => rfl
  | cons x xs ih =>
    rw [gather, ih, run_cons, Step.andThen, Effect.calls_append, mounts_append]
    rfl

/-- What a run does to a widget that is opened in it. -/
private theorem used_of_openings {s : State} (h : s.Coherent) {past : List Call}
    (hp : s.IsPast past) {x : Stimulus} {w : Widget} (hw : w ∈ s.openings x)
    (later : List Stimulus) :
    ∃ backlog, s.Opens x w backlog ∧
      (s.run (x :: later)).state.Used (past ++ Effect.calls (s.run (x :: later)).effects) w
        s.viewport.current backlog := by
  obtain ⟨backlog, before, a, rest, hacts, ho⟩ := opens_of_mem_openings h hw
  refine ⟨backlog, ⟨before, a, rest, hacts, ho⟩, ?_⟩
  have hdeeds : s.deeds (x :: later) =
      before ++ a :: (rest ++ (s.respond x).state.deeds later) := by
    rw [deeds, hacts, List.append_assoc, List.cons_append]
  have hcurrent : (s.performAll before).state.viewport.current = s.viewport.current := by
    have hnone : before.flatMap Act.pushes = [] := by
      rw [List.flatMap_eq_nil_iff]
      intro b hb
      have hmute := mute_of_opens hacts ho b (List.mem_append_left _ hb)
      cases b with
      | resizeAll g => cases hmute
      | _ => rfl
    rw [current_performAll, hnone]
    rfl
  obtain ⟨hstate, hcalls⟩ :=
    performAll_split s before (rest ++ (s.respond x).state.deeds later) a
  have hused := Used.of_opens (h.performAll before) (isPast_performAll h hp before) ho
  have hall := hused.performAll ((h.performAll before).perform a)
    (rest ++ (s.respond x).state.deeds later)
  rw [run_eq h, hdeeds, hstate, hcalls, ← hcurrent]
  rw [List.append_assoc, List.append_assoc] at hall
  exact hall

/-- Whatever the order of visits, every widget that is opened in a run is for an instance without
one or for the builder console without one, one at most for an instance in each of its lifetimes.
Those are opened that are made, and those that are brought to the builder console and taken. It is
mounted first and once, takes the geometry that was pushed last if one was pushed before, draws in
one write all that was kept for it, and is left alone once it is dropped. Nothing is done to another
widget, but that one is dropped that was brought to the builder console and not taken. As long as a
widget is attached, the geometry that it took last is the one announced, which is the one pushed
last. -/
theorem use_of_widgets (id : String) (setup : Setup) {xs : List Stimulus} {calls : List Call}
    (hc : (initial id setup).MayCallAll xs calls) :
    let s := ((initial id setup).run xs).state
    (∀ earlier x later, xs = earlier ++ x :: later →
      ∀ w ∈ ((initial id setup).run earlier).state.openings x, ∃ backlog,
        ((initial id setup).run earlier).state.Opens x w backlog ∧
        ProperUse ((initial id setup).gather pushes earlier).getLast? backlog (usage w calls) ∧
        (s.Attached w ↔ .drop ∉ usage w calls)) ∧
    (∀ earlier x later, xs = earlier ++ x :: later →
      let u := ((initial id setup).run earlier).state
      u.openings x = u.creations x ++ u.broughtBy true x) ∧
    (∀ c ∈ calls, c.widget ∈ (initial id setup).gather openings xs ∨
      c.widget ∈ (initial id setup).gather (broughtBy false) xs ∧ usage c.widget calls = [.drop]) ∧
    (∀ earlier x life name, name ∈ ((initial id setup).run earlier).state.arrivals x →
      (∀ y ∈ life, y.removes name = false) →
      ((((initial id setup).run earlier).state.gather creations (x :: life)).filter
        fun w => w.name = name).length ≤ 1) ∧
    (∀ w, s.Attached w → lastSize (usage w calls) = s.viewport.current) ∧
    s.viewport.current = ((initial id setup).gather pushes xs).getLast? := by
  intro s
  have h := Coherent.initial id setup
  have hl : s.Ledger _ (Effect.calls ((initial id setup).run xs).effects) := ledger_run id setup xs
  have husage (w : Widget) := usage_of_mayCallAll h hc w
  refine ⟨?_, ?_, ?_, ?_, ?_, ?_⟩
  · rintro earlier x later hxs w hw
    obtain ⟨backlog, hopens, hused⟩ := used_of_openings (coherent_run id setup earlier)
      (isPast_run id setup earlier) hw later
    have hrun : (initial id setup).run xs =
        ((initial id setup).run earlier).andThen fun u => u.run (x :: later) := by
      rw [hxs, run_append]
    have hs : s.Used (Effect.calls ((initial id setup).run xs).effects) w
        ((initial id setup).gather pushes earlier).getLast? backlog := by
      have hcurrent := (current_run h earlier).trans Option.or_none
      rw [hcurrent, ← Effect.calls_append] at hused
      show ((initial id setup).run xs).state.Used _ w _ backlog
      rw [hrun]
      exact hused
    rw [husage]
    exact ⟨backlog, hopens, hs.proper⟩
  · exact fun earlier x later _ => openings_eq (coherent_run id setup earlier) x
  · intro c hm
    rw [gather_openings, mem_mounts, husage]
    have hmade : c ∈ Effect.calls ((initial id setup).run xs).effects := by
      rw [← mem_usage, ← husage, mem_usage]
      exact hm
    exact hl.known c hmade
  · intro earlier x life name hx hlife
    exact length_creations_le (coherent_run id setup earlier) x hlife
  · intro w hw
    rw [husage]
    exact hl.sized w hw
  · rw [current_run h]
    exact Option.or_none

/-- Two instances are shown, and the one that came in last takes the pushed geometry first. -/
theorem use_of_widgets_reversed :
    let start := initial "s1" {}
    let load : Stimulus :=
      .bootstrap (.ok { instances := [("a", .named "a"), ("b", .named "b")] })
    let push : Stimulus := .inbound (.viewportResize { cols := 80, rows := 24 })
    let loaded := (start.respond load).state
    let shown := (loaded.respond (.select "b")).state
    let pushed : List Call :=
      (shown.roster.entries.values.reverse.flatMap fun i =>
        (i.screen.resize { cols := 80, rows := 24 }).2) ++
          (shown.builder.resize { cols := 80, rows := 24 }).2
    let calls := Effect.calls (start.respond load).effects ++
      (Effect.calls (loaded.respond (.select "b")).effects ++ (pushed ++ []))
    let s := (start.run [load, .select "b", push]).state
    start.MayCallAll [load, .select "b", push] calls ∧
      (pushed.map fun c => c.widget.name) = ["b", "a"] ∧
      ∀ w, s.Attached w → lastSize (usage w calls) = s.viewport.current := by
  intro start load push loaded shown pushed calls s
  have hc : start.MayCallAll [load, .select "b", push] calls :=
    .cons (.listed load) (.cons (.listed (.select "b"))
      (.cons (.visited _ (by decide +kernel) (List.reverse_perm _)) (.nil _)))
  exact ⟨hc, by decide +kernel, (use_of_widgets "s1" {} hc).2.2.2.2.1⟩

end State
end TermSync.Session

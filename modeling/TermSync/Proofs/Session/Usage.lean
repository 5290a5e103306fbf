import TermSync.Proofs.Session.Termination
import TermSync.Proofs.Session.Viewport
import TermSync.Proofs.Terminal.Usage

/-!
# What a session does to its widgets

A widget is opened by one act, and as long as it is attached the acts use it; the act that takes it
off drops it, and none comes back to it. All the while the geometry that it took last is the one
announced.

Main statements: `opens_of_mount` and `usage_of_opens` (how widgets are opened), `usage_of_drops`
and `usage_of_kept` (what becomes of one that is attached), `Used.performAll` and
`Ledger.run` (what any number of acts, or of responses, come to).
-/

namespace TermSync.Session

open Roster (Instance)
open Terminal (Action Call Geometry ProperUse Screen Widget drop_not_mem_opening lastSize
  lastSize_append lastSize_of_none lastSize_of_resize lastSize_opening mem_usage opening usage
  usage_append usage_of_eq usage_of_ne)
open Text (Bytes)

namespace State

/-! ## Taking off -/

/-- A widget that is attached is older than the next one. -/
theorem Coherent.lt_of_attached {s : State} (h : s.Coherent) {w : Widget} (hw : s.Attached w) :
    w.serial < s.nextSerial := by
  rcases hw with ⟨name, hw⟩ | hw
  · obtain ⟨i, hi, hv⟩ := exists_of_screen hw
    exact (h.attached name i w hi hv).2.1
  · exact h.builder w hw

/-- The acts that take off a widget that is attached. -/
inductive Drops (s : State) (w : Widget) : Act → Prop where
  | forget {name : String} (hw : (s.screen name).widget = some w) : Drops s w (.forget name)
  | terminate (ha : s.isAlive = true) : Drops s w .terminate

private theorem not_attached_forget {s : State} (h : s.Coherent) {name : String} {w : Widget}
    (hw : (s.screen name).widget = some w) : ¬ (s.forget name).state.Attached w := by
  rintro (⟨n, hn⟩ | hb)
  · obtain ⟨i, hi, hv⟩ := exists_of_screen hn
    rw [get?_forget] at hi
    split at hi
    · cases hi
    · next hne =>
      have hn : (s.screen n).widget = some w := by rw [screen_of_get? hi, hv]
      exact hne (h.eq_of_screen hn hw)
  · obtain ⟨_, he⟩ := s.forget_eq name
    rw [he] at hb
    exact h.screen_ne (t := s) (.inl hb) hw

/-- The act that takes a widget off drops it, once, and does nothing else to it. -/
theorem usage_of_drops {s : State} (h : s.Coherent) {w : Widget} (hw : s.Attached w) {a : Act}
    (hd : s.Drops w a) :
    ¬ (s.perform a).state.Attached w ∧
      usage w (Effect.calls (s.perform a).effects) = [.drop] := by
  cases hd with
  | @forget name hs =>
    refine ⟨not_attached_forget h hs, ?_⟩
    rw [perform, calls_forget, Screen.release, hs]
    exact usage_of_eq fun c hc => by cases List.mem_singleton.mp hc; rfl
  | terminate ha =>
    have hr := releases_terminate h ha
    constructor
    · rw [perform, terminate, if_pos ha]
      rintro (⟨name, hn⟩ | hb)
      · cases hn
      · cases hb
    · have hfilter : ∀ c ∈ Effect.calls s.terminate.effects,
          decide (c.widget = w) = decide (c = ⟨w, .drop⟩) := by
        intro c hc
        have ha := hr.only c hc
        cases c
        cases ha
        simp
      rw [perform, usage, List.filter_congr hfilter, List.filter_eq,
        List.count_eq_one_of_mem hr.once ((hr.all w).mpr hw)]
      rfl

/-! ## Use -/

/-- The builder console gets a widget, and loses it, in one way only. -/
private theorem builder_kept (s : State) {a : Act} (ht : a ≠ .terminate)
    (hb : a ≠ .aside .attachBuilder) :
    (s.perform a).state.builder.widget = s.builder.widget := by
  cases a with
  | resizeAll g => exact Screen.widget_resize s.builder g
  | display n =>
    rcases display_cases s n with ⟨_, _, -, -, -, hp⟩ | ⟨_, _, _, -, -, -, hp⟩ | ⟨-, hp⟩ <;>
      rw [hp]
  | forget n =>
    obtain ⟨_, he⟩ := s.forget_eq n
    rw [perform, he]
    rfl
  | flush n =>
    cases hi : s.roster.get? n with
    | none => rw [perform, flush_eq_of_none hi]
    | some i =>
      rw [perform, flush_eq hi]
      rfl
  | terminate => exact absurd rfl ht
  | aside a =>
    cases a with
    | attachBuilder => exact absurd rfl hb
    | builderOut data => exact Screen.widget_deliver s.builder data
    | settle => rw [perform, performAside, settle_eq]
    | startCountdown =>
      obtain ⟨_, _, _, he⟩ := s.startCountdown_eq
      rw [perform, performAside, he]
    | setConnected connected =>
      obtain ⟨_, he⟩ := s.setConnected_eq connected
      rw [perform, performAside, he]
    | _ => rfl
  | _ => rfl

private theorem builder_perform {s : State} {a : Act} {w : Widget} (hb : s.builder.widget = some w)
    (hd : ¬ s.Drops w a) : (s.perform a).state.builder.widget = some w := by
  by_cases ht : a = .terminate
  · rw [ht, perform, terminate]
    split
    · next ha => exact absurd (ht ▸ .terminate ha) hd
    · exact hb
  · by_cases ha : a = .aside .attachBuilder
    · rcases attachBuilder_cases s with ⟨hnone, -⟩ | ⟨-, hp⟩
      · rw [hnone] at hb
        cases hb
      · rw [ha, perform, performAside, hp]
        exact hb
    · rw [builder_kept s ht ha, hb]

/-- An instance that is not taken out keeps its widget. -/
theorem widget_stays {s : State} {a : Act} {w : Widget} {name : String}
    (hw : (s.screen name).widget = some w) (hr : a.removes name = false) :
    ((s.perform a).state.screen name).widget = some w := by
  by_cases hd : ∃ n, a = .display n
  · obtain ⟨n, rfl⟩ := hd
    rcases screen_display s n name with he | ⟨-, hnone, -⟩
    · rw [he, hw]
    · rw [hnone] at hw
      cases hw
  · rw [widget_perform s (fun n he => hd ⟨n, he⟩) hr, hw]

private theorem screen_kept {s : State} {a : Act} {w : Widget} {name : String}
    (hw : (s.screen name).widget = some w) (hd : ¬ s.Drops w a) :
    ((s.perform a).state.screen name).widget = some w := by
  cases hr : a.removes name with
  | false => exact widget_stays hw hr
  | true =>
    cases a with
    | forget n =>
      obtain rfl : n = name := by simpa [Act.removes] using hr
      exact absurd (.forget hw) hd
    | terminate =>
      rw [perform, terminate]
      split
      · next ha => exact absurd (.terminate ha) hd
      · exact hw
    | _ => cases hr

/-- Nothing else that leaves the instances alone touches a widget. -/
private theorem calls_aside {s : State} {a : Aside} (hb : ∀ data, a ≠ .builderOut data)
    (ha : a ≠ .attachBuilder) : Effect.calls (s.performAside a).effects = [] := by
  cases a with
  | builderOut data => exact absurd rfl (hb data)
  | attachBuilder => exact absurd rfl ha
  | settle =>
    rw [performAside, settle_eq]
    cases s.isAlive with
    | false => rfl
    | true => cases s.viewport.settle.1 <;> rfl
  | setConnected connected =>
    obtain ⟨told, he⟩ := s.setConnected_eq connected
    rw [performAside, he]
    cases told <;> rfl
  | _ => rfl

/-- What may be done to a widget by an act that does not take it off. -/
private theorem plain_of_mem_calls {s : State} (h : s.Coherent) {a : Act} {c : Call}
    (hc : c ∈ Effect.calls (s.perform a).effects) (hw : s.Attached c.widget)
    (hd : ¬ s.Drops c.widget a) :
    c.action.isPlain = true ∧ ∀ g, c.action.size? = some g → a = .resizeAll g := by
  have older := h.lt_of_attached hw
  cases a with
  | forget n =>
    rw [perform, calls_forget, Screen.mem_release] at hc
    exact absurd (.forget hc.2) hd
  | display n =>
    rcases display_cases s n with ⟨i, w, -, -, -, hp⟩ | ⟨i, _, _, -, -, -, hp⟩ | ⟨-, hp⟩
    · rw [hp] at hc
      cases List.mem_singleton.mp hc
      exact ⟨rfl, by simp [Action.size?]⟩
    · rw [hp, Effect.calls_make, Effect.calls_map_call] at hc
      rw [widget_of_mem_openingCalls hc] at older
      exact absurd older (Nat.lt_irrefl s.nextSerial)
    · rw [hp] at hc
      cases hc
  | route n data =>
    rw [calls_route] at hc
    rw [(Screen.mem_deliver hc).2]
    exact ⟨rfl, by simp [Action.size?]⟩
  | resizeAll g =>
    have hresize {t : Screen} (hc : c ∈ (t.resize g).2) :
        c.action.isPlain = true ∧
          ∀ d, c.action.size? = some d → Act.resizeAll g = .resizeAll d := by
      rcases (Screen.mem_resize hc).2 with ha | ha <;> rw [ha] <;>
        simp [Action.size?, Action.isPlain]
    rw [perform, calls_resizeAll, List.mem_append] at hc
    rcases hc with hc | hc
    · obtain ⟨i, -, hc⟩ := List.mem_flatMap.mp hc
      exact hresize hc
    · exact hresize hc
  | flush n =>
    rw [perform, calls_flush] at hc
    cases hc
  | terminate =>
    rw [perform, terminate] at hc
    split at hc
    · next ha => exact absurd (.terminate ha) hd
    · cases hc
  | aside a =>
    cases a with
    | builderOut data =>
      rw [perform, performAside, Effect.calls_map_call] at hc
      rw [(Screen.mem_deliver hc).2]
      exact ⟨rfl, by simp [Action.size?]⟩
    | attachBuilder =>
      rcases attachBuilder_cases s with ⟨-, hp⟩ | ⟨-, hp⟩
      · rw [perform, performAside, hp, Effect.calls_map_call] at hc
        rw [(Screen.of_mem_openingCalls hc).1] at older
        exact absurd older (Nat.lt_irrefl s.nextSerial)
      · rw [perform, performAside, hp] at hc
        cases List.mem_singleton.mp hc
        exact absurd older (Nat.lt_irrefl s.nextSerial)
    | _ =>
      rw [perform, calls_aside (by simp) (by simp)] at hc
      cases hc
  | _ => cases hc

/-- What becomes of a widget by an act that does not take it off: it stays, and is used. -/
theorem usage_of_kept {s : State} (h : s.Coherent) {w : Widget} (hw : s.Attached w) {a : Act}
    (hd : ¬ s.Drops w a) :
    (s.perform a).state.Attached w ∧
      ∀ b ∈ usage w (Effect.calls (s.perform a).effects), b.isPlain = true ∧
        ∀ g, b.size? = some g → a = .resizeAll g := by
  constructor
  · rcases hw with ⟨name, hw⟩ | hb
    · exact .inl ⟨name, screen_kept hw hd⟩
    · exact .inr (builder_perform hb hd)
  · intro b hb
    exact plain_of_mem_calls h (mem_usage.mp hb) hw hd

/-! ## Opening -/

/-- The acts that open a widget, and what was kept for it: an instance without a widget is
displayed, or the builder console gets one that has none. -/
inductive OpensBy (s : State) : Act → Widget → Bytes → Prop where
  | shown {name : String} {i : Instance} (ha : s.isAlive = true)
      (hi : s.roster.get? name = some i) (hw : i.screen.widget = none) :
      OpensBy s (.display name) (s.newWidget name) i.screen.backlog
  | builder (hb : s.builder.widget = none) :
      OpensBy s (.aside .attachBuilder) (s.newWidget builderName) s.builder.backlog

/-- A widget that is opened is new. -/
theorem OpensBy.serial {s : State} {a : Act} {w : Widget} {backlog : Bytes}
    (ho : s.OpensBy a w backlog) : w.serial = s.nextSerial := by
  cases ho <;> rfl

private theorem builder_of_perform {s : State} {a : Act} {w : Widget}
    (hw : (s.perform a).state.builder.widget = some w) :
    s.builder.widget = some w ∨ ∃ backlog, s.OpensBy a w backlog := by
  by_cases ht : a = .terminate
  · rw [ht, perform, terminate] at hw
    split at hw
    · cases hw
    · exact .inl hw
  · by_cases ha : a = .aside .attachBuilder
    · subst ha
      rcases attachBuilder_cases s with ⟨hnone, hp⟩ | ⟨-, hp⟩
      · rw [perform, performAside, hp] at hw
        cases hw
        exact .inr ⟨_, .builder hnone⟩
      · rw [perform, performAside, hp] at hw
        exact .inl hw
    · rw [builder_kept s ht ha] at hw
      exact .inl hw

/-- A widget that is attached was attached before, or is opened. -/
private theorem attached_of_perform {s : State} {a : Act} {w : Widget}
    (hw : (s.perform a).state.Attached w) :
    s.Attached w ∨ ∃ backlog, s.OpensBy a w backlog := by
  rcases hw with ⟨name, hw⟩ | hw
  · by_cases hd : ∃ n, a = .display n
    · obtain ⟨n, rfl⟩ := hd
      rcases display_cases s n with ⟨i, v, -, hi, -, hp⟩ | ⟨i, _, _, ha, hi, hnone, -⟩ | ⟨-, hp⟩
      · rw [hp] at hw
        exact .inl (.inl ⟨name, hw⟩)
      · rcases screen_display s n name with he | ⟨rfl, -, he⟩
        · rw [he] at hw
          exact .inl (.inl ⟨name, hw⟩)
        · rw [he] at hw
          cases hw
          exact .inr ⟨_, .shown ha hi hnone⟩
      · rw [hp] at hw
        exact .inl (.inl ⟨name, hw⟩)
    · exact .inl (.inl ⟨name, widget_of_perform (fun n he => hd ⟨n, he⟩) hw⟩)
  · exact (builder_of_perform hw).imp_left .inr

/-- A widget that was taken off, or never attached, is left alone for good. -/
theorem usage_of_gone {s : State} {w : Widget} (hw : ¬ s.Attached w)
    (hl : w.serial < s.nextSerial) (a : Act) :
    ¬ (s.perform a).state.Attached w ∧ usage w (Effect.calls (s.perform a).effects) = [] := by
  constructor
  · intro ht
    rcases attached_of_perform ht with hs | ⟨_, hs⟩
    · exact hw hs
    · exact absurd hs.serial (Nat.ne_of_lt hl)
  · apply usage_of_ne
    rintro c hc rfl
    rcases (of_mem_calls hc).1 with hs | hb | hn
    · exact hw (.inl hs)
    · exact hw (.inr hb)
    · omega

private theorem display_eq {s : State} {name : String} {i : Instance} (ha : s.isAlive = true)
    (hi : s.roster.get? name = some i) (hw : i.screen.widget = none) :
    ((s.perform (.display name)).state.screen name).widget = some (s.newWidget name) ∧
      Effect.calls (s.perform (.display name)).effects = s.openingCalls name i := by
  rcases display_cases s name with ⟨j, w, -, hj, hv, -⟩ | ⟨j, _, _, -, hj, -, hp⟩ | ⟨hno, -⟩
  · rw [hi] at hj
    cases hj
    rw [hw] at hv
    cases hv
  · rw [hi] at hj
    cases hj
    have hg := get?_openedRoster s name name i
    rw [if_pos rfl, hi, Option.map_some] at hg
    rw [hp, Effect.calls_make, Effect.calls_map_call]
    exact ⟨congrArg (fun i => ((i.map Instance.screen).getD {}).widget) hg, rfl⟩
  · rw [ha, hi] at hno
    simp at hno

/-- A widget that is opened for an instance is attached to the instance's screen. -/
theorem screen_of_shown {s : State} {name : String} {i : Instance} (ha : s.isAlive = true)
    (hi : s.roster.get? name = some i) (hw : i.screen.widget = none) :
    ((s.perform (.display name)).state.screen name).widget = some (s.newWidget name) :=
  (display_eq ha hi hw).1

/-- What it is to open a widget: it is attached, mounted on a screen with what this one kept, and
may get the keyboard. -/
theorem calls_of_opens {s : State} {a : Act} {w : Widget} {backlog : Bytes}
    (ho : s.OpensBy a w backlog) :
    (s.perform a).state.Attached w ∧ ∃ (screen : Screen) (rest : List Call),
      screen.backlog = backlog ∧ (rest = [] ∨ rest = [⟨w, .focus⟩]) ∧
        Effect.calls (s.perform a).effects =
          screen.openingCalls w s.viewport.current ++ rest := by
  cases ho with
  | @shown name i ha hi hw =>
    obtain ⟨hscreen, hcalls⟩ := display_eq ha hi hw
    exact ⟨.inl ⟨name, hscreen⟩, i.screen, _, rfl, .inr rfl, hcalls⟩
  | builder hb =>
    rcases attachBuilder_cases s with ⟨-, hp⟩ | ⟨hattached, -⟩
    · rw [perform, performAside, hp, Effect.calls_map_call]
      exact ⟨.inr rfl, s.builder, [], rfl, .inl rfl, (List.append_nil _).symm⟩
    · exact absurd hb hattached

/-- A new widget is opened with what was kept for it. -/
theorem usage_of_opens {s : State} {a : Act} {w : Widget} {backlog : Bytes}
    (ho : s.OpensBy a w backlog) :
    ∃ rest : List Action, (∀ b ∈ rest, b.isPlain = true ∧ b.size? = none) ∧
      usage w (Effect.calls (s.perform a).effects) =
        opening s.viewport.current backlog ++ rest := by
  obtain ⟨-, screen, rest, rfl, hrest, hcalls⟩ := calls_of_opens ho
  refine ⟨usage w rest, ?_, ?_⟩
  · intro b hb
    rw [mem_usage] at hb
    rcases hrest with rfl | rfl
    · cases hb
    · cases List.mem_singleton.mp hb
      exact ⟨rfl, rfl⟩
  · rw [hcalls, usage_append, Screen.usage_openingCalls]

private theorem attached_of_mem_calls {s : State} {a : Act} {c : Call}
    (hd : ∀ name, a ≠ .display name) (hb : a ≠ .aside .attachBuilder)
    (hc : c ∈ Effect.calls (s.perform a).effects) : s.Attached c.widget := by
  rcases (of_mem_calls hc).1 with hs | hs | ⟨hle, hlt⟩
  · exact .inl hs
  · exact .inr hs
  · -- No other act that touches a widget takes a number.
    cases a with
    | display name => exact absurd rfl (hd name)
    | forget name =>
      rw [perform, calls_forget] at hc
      exact .inl ⟨name, (Screen.mem_release.mp hc).2⟩
    | flush name =>
      rw [perform, calls_flush] at hc
      cases hc
    | terminate =>
      rw [perform, terminate] at hlt
      split at hlt <;> exact absurd hlt (Nat.not_lt.mpr hle)
    | aside a =>
      by_cases hout : ∃ data, a = .builderOut data
      · obtain ⟨data, rfl⟩ := hout
        exact absurd hlt (Nat.not_lt.mpr hle)
      · rw [perform, calls_aside (fun data he => hout ⟨data, he⟩) fun he => hb (he ▸ rfl)] at hc
        cases hc
    | _ => exact absurd hlt (Nat.not_lt.mpr hle)

/-- The widget that someone brings to the builder console, if that is the answer to it. -/
def brought (s : State) (answer : Bool) : List Widget :=
  if s.attachBuilder.1 = answer then [s.newWidget builderName] else []

/-- The widget that a stimulus brings to the builder console, if that is the answer to it. -/
def broughtBy (answer : Bool) (s : State) : Stimulus → List Widget
  | .attachBuilder => s.brought answer
  | _ => []

/-- The widgets that an act refuses: the one for the builder console, if this has one. -/
def refusedBy (s : State) : Act → List Widget
  | .aside .attachBuilder => s.brought false
  | _ => []

/-- What is done to a new widget: it is opened, or it is refused and dropped at once. -/
theorem usage_of_new {s : State} (h : s.Coherent) {a : Act} {c : Call}
    (hc : c ∈ Effect.calls (s.perform a).effects) (hw : s.nextSerial ≤ c.widget.serial) :
    (∃ backlog, s.OpensBy a c.widget backlog) ∨
      c.widget ∈ s.refusedBy a ∧
        usage c.widget (Effect.calls (s.perform a).effects) = [.drop] := by
  have hnew : ¬ s.Attached c.widget := fun ha => by
    have hl := h.lt_of_attached ha
    omega
  by_cases hd : ∃ n, a = .display n
  · obtain ⟨n, rfl⟩ := hd
    rcases display_cases s n with ⟨i, w, -, hi, hattached, hp⟩ | ⟨i, _, _, ha, hi, hnone, hp⟩ |
      ⟨-, hp⟩
    · rw [hp] at hc
      cases List.mem_singleton.mp hc
      exact absurd (.inl ⟨n, by rw [screen_of_get? hi, hattached]⟩) hnew
    · rw [hp, Effect.calls_make, Effect.calls_map_call] at hc
      rw [widget_of_mem_openingCalls hc]
      exact .inl ⟨_, .shown ha hi hnone⟩
    · rw [hp] at hc
      cases hc
  · by_cases hb : a = .aside .attachBuilder
    · subst hb
      rcases attachBuilder_cases s with ⟨hnone, hp⟩ | ⟨hwidget, hp⟩
      · rw [perform, performAside, hp, Effect.calls_map_call] at hc
        rw [(Screen.of_mem_openingCalls hc).1]
        exact .inl ⟨_, .builder hnone⟩
      · have hanswer : s.attachBuilder.1 = false := by
          rw [attachBuilder_answer, Option.isNone_eq_false_iff, Option.isSome_iff_ne_none]
          exact hwidget
        rw [perform, performAside, hp] at hc ⊢
        cases List.mem_singleton.mp hc
        refine .inr ⟨?_, usage_of_eq fun c hc => by cases List.mem_singleton.mp hc; rfl⟩
        rw [refusedBy, brought, if_pos hanswer]
        exact List.mem_cons_self
    · exact absurd (attached_of_mem_calls (fun n he => hd ⟨n, he⟩) hb hc) hnew

private theorem resize_mem_resizeAll {s : State} {w : Widget} (hw : s.Attached w) (g : Geometry) :
    ⟨w, .resize g⟩ ∈ Effect.calls (s.resizeAll g).effects := by
  rw [calls_resizeAll, List.mem_append, List.mem_flatMap]
  rcases hw with ⟨name, hw⟩ | hb
  · obtain ⟨i, hi, hv⟩ := exists_of_screen hw
    exact .inl ⟨i, (Roster.Table.mem_values_iff _ i).mpr ⟨name, hi⟩, Screen.resize_mem hv g⟩
  · exact .inr (Screen.resize_mem hb g)

/-- A widget that stays takes the geometry that is announced, and no other. -/
private theorem lastSize_of_kept {s : State} (h : s.Coherent) {w : Widget} (hw : s.Attached w)
    {a : Act} (hd : ¬ s.Drops w a) :
    lastSize (usage w (Effect.calls (s.perform a).effects)) = a.pushes.getLast? := by
  have husage := (usage_of_kept h hw hd).2
  by_cases hg : ∃ g, a = .resizeAll g
  · obtain ⟨g, rfl⟩ := hg
    apply lastSize_of_resize
    · rw [mem_usage]
      exact resize_mem_resizeAll hw g
    · intro b hb d hd
      exact (Act.resizeAll.inj ((husage b hb).2 d hd)).symm
  · rw [lastSize_of_none]
    · cases a with
      | resizeAll g => exact absurd ⟨g, rfl⟩ hg
      | _ => rfl
    · intro b hb
      by_contra hne
      obtain ⟨d, hd⟩ := Option.ne_none_iff_exists'.mp hne
      exact hg ⟨d, (husage b hb).2 d hd⟩

/-! ## Any number of acts -/

/-- What was done to a widget that was opened: it was opened with what was known and kept then, used
as long as it is attached, and dropped if it is not attached any more. -/
structure Used (s : State) (past : List Call) (w : Widget) (geometry : Option Geometry)
    (backlog : Bytes) : Prop where
  older : w.serial < s.nextSerial
  use : ∃ between : List Action, (∀ b ∈ between, b.isPlain = true) ∧
    (s.Attached w ∧ usage w past = opening geometry backlog ++ between ∨
      ¬ s.Attached w ∧ usage w past = opening geometry backlog ++ between ++ [.drop])

private theorem usage_of_isPast {s : State} {past : List Call} (hp : s.IsPast past) {w : Widget}
    (hw : s.nextSerial ≤ w.serial) : usage w past = [] := by
  apply usage_of_ne
  rintro c hc rfl
  exact absurd (hp c hc) (Nat.not_lt.mpr hw)

/-- So it is when it has just been opened. -/
theorem Used.of_opens {s : State} (h : s.Coherent) {past : List Call} (hp : s.IsPast past) {a : Act}
    {w : Widget} {backlog : Bytes} (ho : s.OpensBy a w backlog) :
    (s.perform a).state.Used (past ++ Effect.calls (s.perform a).effects) w s.viewport.current
      backlog where
  older := (h.perform a).lt_of_attached (calls_of_opens ho).1
  use := by
    obtain ⟨rest, hplain, husage⟩ := usage_of_opens ho
    refine ⟨rest, fun b hb => (hplain b hb).1, .inl ⟨(calls_of_opens ho).1, ?_⟩⟩
    rw [usage_append, usage_of_isPast hp (Nat.le_of_eq ho.serial.symm), husage, List.nil_append]

theorem Used.perform {s : State} (h : s.Coherent) {past : List Call} {w : Widget}
    {geometry : Option Geometry} {backlog : Bytes} (hu : s.Used past w geometry backlog) (a : Act) :
    (s.perform a).state.Used (past ++ Effect.calls (s.perform a).effects) w geometry backlog where
  older := Nat.lt_of_lt_of_le hu.older (nextSerial_perform s a)
  use := by
    obtain ⟨between, hplain, ⟨hw, hpast⟩ | ⟨hw, hpast⟩⟩ := hu.use
    · by_cases hd : s.Drops w a
      · obtain ⟨hgone, husage⟩ := usage_of_drops h hw hd
        refine ⟨between, hplain, .inr ⟨hgone, ?_⟩⟩
        rw [usage_append, hpast, husage]
      · obtain ⟨hstays, husage⟩ := usage_of_kept h hw hd
        refine ⟨between ++ usage w (Effect.calls (s.perform a).effects), ?_, .inl ⟨hstays, ?_⟩⟩
        · intro b hb
          rcases List.mem_append.mp hb with hb | hb
          · exact hplain b hb
          · exact (husage b hb).1
        · rw [usage_append, hpast, List.append_assoc]
    · obtain ⟨hgone, husage⟩ := usage_of_gone hw hu.older a
      refine ⟨between, hplain, .inr ⟨hgone, ?_⟩⟩
      rw [usage_append, hpast, husage, List.append_nil]

theorem Used.performAll {s : State} (h : s.Coherent) {past : List Call} {w : Widget}
    {geometry : Option Geometry} {backlog : Bytes} (hu : s.Used past w geometry backlog)
    (as : List Act) :
    (s.performAll as).state.Used (past ++ Effect.calls (s.performAll as).effects) w geometry
      backlog := by
  induction as generalizing s past with
  | nil => simpa using hu
  | cons a as ih =>
    have hrest := ih (h.perform a) (hu.perform h a)
    rw [List.append_assoc, ← Effect.calls_append] at hrest
    exact hrest

/-- A widget that was opened is used as it should be, and is attached as long as it was not
dropped. -/
theorem Used.proper {s : State} {past : List Call} {w : Widget} {geometry : Option Geometry}
    {backlog : Bytes} (hu : s.Used past w geometry backlog) :
    ProperUse geometry backlog (usage w past) ∧ (s.Attached w ↔ .drop ∉ usage w past) := by
  obtain ⟨between, hplain, ⟨hw, hpast⟩ | ⟨hw, hpast⟩⟩ := hu.use
  · refine ⟨⟨between, hplain, .inl hpast⟩, iff_of_true hw ?_⟩
    rw [hpast, List.mem_append]
    rintro (hm | hm)
    · exact drop_not_mem_opening geometry backlog hm
    · cases hplain _ hm
  · refine ⟨⟨between, hplain, .inr hpast⟩, iff_of_false hw (not_not_intro ?_)⟩
    rw [hpast]
    exact List.mem_append_right _ List.mem_cons_self

/-- The calls that were made: those who are attached were opened and have taken the geometry
announced; and nothing was done to any other widget but to open it, or to drop it as refused. -/
structure Ledger (s : State) (refused : List Widget) (past : List Call) : Prop where
  older : s.IsPast past
  opened : ∀ w, s.Attached w → .mount ∈ usage w past
  sized : ∀ w, s.Attached w → lastSize (usage w past) = s.viewport.current
  known : ∀ c ∈ past, .mount ∈ usage c.widget past ∨
    c.widget ∈ refused ∧ usage c.widget past = [.drop]

theorem Ledger.perform {s : State} (h : s.Coherent) {refused : List Widget} {past : List Call}
    (hl : s.Ledger refused past) (a : Act) :
    (s.perform a).state.Ledger (refused ++ s.refusedBy a)
      (past ++ Effect.calls (s.perform a).effects) where
  older := isPast_perform h hl.older a
  opened w ht := by
    rw [usage_append, List.mem_append]
    rcases attached_of_perform ht with hs | ⟨backlog, ho⟩
    · exact .inl (hl.opened w hs)
    · obtain ⟨rest, -, husage⟩ := usage_of_opens ho
      rw [husage]
      exact .inr List.mem_cons_self
  sized w ht := by
    rw [usage_append, lastSize_append, current_perform]
    rcases attached_of_perform ht with hs | ⟨backlog, ho⟩
    · rw [hl.sized w hs]
      exact congrArg (·.or s.viewport.current) (lastSize_of_kept h hs fun hd =>
        (usage_of_drops h hs hd).1 ht)
    · obtain ⟨rest, hplain, husage⟩ := usage_of_opens ho
      have hpushes : a.pushes = [] := by cases ho <;> rfl
      rw [usage_of_isPast hl.older (Nat.le_of_eq ho.serial.symm), husage, lastSize_append,
        lastSize_of_none fun b hb => (hplain b hb).2, lastSize_opening, hpushes]
      cases s.viewport.current <;> rfl
  known c hc := by
    have mounted (hw : .mount ∈ usage c.widget past) :
        .mount ∈ usage c.widget (past ++ Effect.calls (s.perform a).effects) := by
      rw [usage_append]
      exact List.mem_append_left _ hw
    by_cases hs : s.Attached c.widget
    · exact .inl (mounted (hl.opened c.widget hs))
    · by_cases hnew : s.nextSerial ≤ c.widget.serial
      · -- Nothing was done to it before.
        rw [usage_append, usage_of_isPast hl.older hnew, List.nil_append]
        have hc : c ∈ Effect.calls (s.perform a).effects := by
          rcases List.mem_append.mp hc with hc | hc
          · exact absurd (hl.older c hc) (Nat.not_lt.mpr hnew)
          · exact hc
        rcases usage_of_new h hc hnew with ⟨backlog, ho⟩ | ⟨hrefused, hdrop⟩
        · obtain ⟨rest, -, husage⟩ := usage_of_opens ho
          rw [husage]
          exact .inl List.mem_cons_self
        · exact .inr ⟨List.mem_append_right _ hrefused, hdrop⟩
      · -- It is left alone now.
        have hgone := (usage_of_gone hs (Nat.lt_of_not_le hnew) a).2
        have hc : c ∈ past := by
          rcases List.mem_append.mp hc with hc | hc
          · exact hc
          · have hused : c.action ∈ usage c.widget (Effect.calls (s.perform a).effects) :=
              mem_usage.mpr hc
            rw [hgone] at hused
            cases hused
        rw [usage_append, hgone, List.append_nil]
        exact (hl.known c hc).imp_right (And.imp_left (List.mem_append_left _))

private theorem Ledger.performAll {s : State} (h : s.Coherent) {refused : List Widget}
    {past : List Call} (hl : s.Ledger refused past) {as : List Act}
    (hnone : ∀ a ∈ as, a ≠ .aside .attachBuilder) :
    (s.performAll as).state.Ledger refused (past ++ Effect.calls (s.performAll as).effects) := by
  induction as generalizing s past with
  | nil => simpa using hl
  | cons a as ih =>
    have ha : s.refusedBy a = [] := by
      unfold refusedBy
      split
      · exact absurd rfl (hnone _ List.mem_cons_self)
      · rfl
    have hfirst := hl.perform h a
    rw [ha, List.append_nil] at hfirst
    have hrest := ih (h.perform a) hfirst fun b hb => hnone b (List.mem_cons_of_mem a hb)
    rw [List.append_assoc, ← Effect.calls_append] at hrest
    exact hrest

/-- The builder console gets a widget only if somebody brings one. -/
theorem attachBuilder_not_mem_acts {s : State} {x : Stimulus} (hx : x ≠ .attachBuilder) :
    ∀ a ∈ s.acts x, a ≠ .aside .attachBuilder := by
  rintro a ha rfl
  exact hx (cause_of_acts ha)

theorem broughtBy_eq_nil {x : Stimulus} (hx : x ≠ .attachBuilder) (answer : Bool) (s : State) :
    s.broughtBy answer x = [] := by
  unfold broughtBy
  split
  · exact absurd rfl hx
  · rfl

theorem Ledger.respond {s : State} (h : s.Coherent) {refused : List Widget} {past : List Call}
    (hl : s.Ledger refused past) (x : Stimulus) :
    (s.respond x).state.Ledger (refused ++ s.broughtBy false x)
      (past ++ Effect.calls (s.respond x).effects) := by
  by_cases hx : x = .attachBuilder
  · subst hx
    exact hl.perform h (.aside .attachBuilder)
  · rw [broughtBy_eq_nil hx, List.append_nil, respond_eq h.roster]
    exact hl.performAll h (attachBuilder_not_mem_acts hx)

theorem Ledger.run {s : State} (h : s.Coherent) {refused : List Widget} {past : List Call}
    (hl : s.Ledger refused past) (xs : List Stimulus) :
    (s.run xs).state.Ledger (refused ++ s.gather (broughtBy false) xs)
      (past ++ Effect.calls (s.run xs).effects) := by
  induction xs generalizing s refused past with
  | nil => simpa [gather] using hl
  | cons x xs ih =>
    have hrest := ih (h.respond x) (hl.respond h x)
    rw [List.append_assoc, List.append_assoc, ← Effect.calls_append] at hrest
    exact hrest

theorem ledger_run (id : String) (setup : Setup) (xs : List Stimulus) :
    ((initial id setup).run xs).state.Ledger ((initial id setup).gather (broughtBy false) xs)
      (Effect.calls ((initial id setup).run xs).effects) := by
  have hnone (w : Widget) : ¬ (initial id setup).Attached w := by
    rintro (⟨name, hw⟩ | hw) <;> cases hw
  have hl : (initial id setup).Ledger [] [] :=
    { older := by rintro c ⟨⟩
      opened := fun w hw => absurd hw (hnone w)
      sized := fun w hw => absurd hw (hnone w)
      known := by rintro c ⟨⟩ }
  exact hl.run (Coherent.initial id setup) xs

end State
end TermSync.Session

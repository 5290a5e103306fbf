import TermSync.Proofs.Session.Hostnames
import TermSync.Proofs.Session.Order

/-!
# The answer to a request and the announcement of its instance

An instance that was asked for is described twice: the backend announces it, and answers the
request. The session may hear of either first, and comes to the same state. What the two records
and the placeholder do to the instance itself is a matter of one instance and of what does not
depend on instances at all; `Facet` is this part of a session. The other instances keep out of it,
and host names go by `Roster.Inherits`.

Main statements: `Record.merge_comm`, `facet_performAll`, `announced_created_comm`.
-/

namespace TermSync.Roster

/-- Two records agree: no field has different values in them. -/
structure Record.Agrees (a b : Record) : Prop where
  ip : ∀ x ∈ a.ip, ∀ y ∈ b.ip, x = y
  hostname : ∀ x ∈ a.hostname, ∀ y ∈ b.hostname, x = y
  proxyHost : ∀ x ∈ a.proxyHost, ∀ y ∈ b.proxyHost, x = y
  sessionId : ∀ x ∈ a.sessionId, ∀ y ∈ b.sessionId, x = y
  image : ∀ x ∈ a.image, ∀ y ∈ b.image, x = y
  kind : ∀ x ∈ a.kind, ∀ y ∈ b.kind, x = y

private theorem orElse_comm {α : Type} {a b : Option α} (h : ∀ x ∈ a, ∀ y ∈ b, x = y) :
    (b <|> a) = (a <|> b) := by
  cases a with
  | none => cases b <;> rfl
  | some x =>
    cases b with
    | none => rfl
    | some y => exact congrArg some (h x rfl y rfl).symm

/-- Records of one instance that agree can be merged in any order. -/
theorem Record.merge_comm {a b : Record} (h : a.Agrees b) (hn : a.name = b.name) :
    a.merge b = b.merge a := by
  simp only [merge, hn, orElse_comm h.ip, orElse_comm h.hostname, orElse_comm h.proxyHost,
    orElse_comm h.sessionId, orElse_comm h.image, orElse_comm h.kind]

end TermSync.Roster

namespace TermSync.Session

open Roster (Instance Record)
open Terminal (Geometry Screen)

/-! ## One instance and the rest of the session -/

/-- One instance, if it is there, and the session apart from its instances. -/
structure Facet where
  rest : State
  instance? : Option Instance

/-- What there is of one instance, and of the session apart from its instances. -/
def State.facet (s : State) (name : String) : Facet where
  rest := { s with roster := {} }
  instance? := s.roster.get? name

namespace Facet

variable (f : Facet) (name : String)

/-- The instance after a record. -/
def learn (record : Record) : Facet :=
  { f with
    instance? := some <|
      match f.instance? with
      | some i => i.merge record
      | none => .ofRecord record }

/-- The instance after it was displayed, with a new widget if it had none. -/
def display : Facet :=
  match f.instance? with
  | some i =>
    if i.screen.isAttached then f
    else
      { rest :=
          { f.rest with nextSerial := f.rest.nextSerial + 2 }.propose? (f.rest.fits name)
        instance? := some (f.rest.opened name i) }
  | none => f

/-- To display an instance again changes nothing about it. -/
theorem display_display : (f.display name).display name = f.display name := by
  cases hi : f.instance? with
  | none => simp [display, hi]
  | some i =>
    cases ha : i.screen.isAttached with
    | true => simp [display, hi, ha]
    | false =>
      have hopened : (f.rest.opened name i).screen.isAttached = true := rfl
      simp [display, hi, ha, hopened]

/-- A record means the same to an instance before and after it is displayed. -/
theorem learn_display {i : Instance} (hi : f.instance? = some i) (record : Record) :
    (f.display name).learn record = (f.learn record).display name := by
  have hscreen : (i.merge record).screen = i.screen := rfl
  cases ha : i.screen.isAttached with
  | true => simp [display, learn, hi, hscreen, ha]
  | false =>
    simp only [display, learn, hi, hscreen, ha]
    rfl

/-- Records that agree mean the same to their instance in any order. -/
theorem learn_comm {a b : Record} (h : a.Agrees b) (hn : a.name = b.name) :
    (f.learn a).learn b = (f.learn b).learn a := by
  have hmerge : a.merge b = b.merge a := Record.merge_comm h hn
  cases hi : f.instance? with
  | none => simp [learn, hi, Instance.merge_ofRecord, hmerge, hn]
  | some i => simp [learn, hi, Instance.merge_merge, hmerge]

/-- A record confirms its instance, and wins where it carries a host name. -/
theorem exists_learn (record : Record) :
    ∃ i, (f.learn record).instance? = some i ∧ i.provisional = false ∧
      i.hostname = (record.hostname <|> f.instance?.bind Instance.hostname) := by
  cases hi : f.instance? with
  | none =>
    refine ⟨.ofRecord record, by simp [learn, hi], rfl, ?_⟩
    cases hh : record.hostname <;> simp [Instance.ofRecord, Instance.absorb, hh]
  | some i => exact ⟨i.merge record, by simp [learn, hi], rfl, rfl⟩

/-- To display an instance gives it a widget and leaves alone what is known of it. -/
theorem exists_display {i : Instance} (hi : f.instance? = some i) :
    ∃ j, (f.display name).instance? = some j ∧ j.screen.isAttached = true ∧
      j.provisional = i.provisional ∧ j.hostname = i.hostname := by
  cases ha : i.screen.isAttached with
  | true => exact ⟨i, by simp [display, hi, ha], ha, rfl, rfl⟩
  | false => exact ⟨f.rest.opened name i, by simp [display, hi, ha], rfl, rfl, rfl⟩

/-- What an act does to the instance. -/
def perform : Act → Facet
  | .learn record => f.learn record
  | .display _ => f.display name
  | _ => f

@[simp] theorem perform_learn (record : Record) :
    f.perform name (.learn record) = f.learn record := rfl

@[simp] theorem perform_display (other : String) :
    f.perform name (.display other) = f.display name := rfl

@[simp] theorem perform_forget (other : String) : f.perform name (.forget other) = f := rfl

end Facet

/-- An act is about an instance: it merges a record, displays the instance, or takes out another
one. -/
inductive Act.About (name : String) : Act → Prop
  | learn {record : Record} (h : record.name = name) : About name (.learn record)
  | display : About name (.display name)
  | forget {other : String} (h : other ≠ name) : About name (.forget other)

namespace State

/-! ## Acts about an instance -/

private theorem isAlive_about {s : State} {name : String} {a : Act} (h : a.About name) :
    (s.perform a).state.isAlive = s.isAlive :=
  isAlive_perform s (by rintro rfl; cases h)

private theorem facet_learn (s : State) (record : Record) :
    (s.perform (.learn record)).state.facet record.name = (s.facet record.name).learn record := by
  cases hi : s.roster.get? record.name <;>
    simp [perform, facet, Facet.learn, Roster.get?_upsert, Roster.learned, hi]

private theorem facet_propose? (s : State) (g : Option Geometry) (name : String) :
    (s.propose? g).facet name =
      { rest := { s with roster := {} }.propose? g, instance? := s.roster.get? name } := by
  cases g <;> rfl

private theorem facet_display {s : State} (ha : s.isAlive = true) (name : String) :
    (s.perform (.display name)).state.facet name = (s.facet name).display name := by
  rcases display_cases s name with ⟨i, w, -, hi, hw, hp⟩ | ⟨i, _, _, -, hi, hw, -⟩ | ⟨hn, hp⟩
  · have hattached : i.screen.isAttached = true := by simp [Screen.isAttached, hw]
    rw [hp]
    simp only [Facet.display, facet, hi, hattached, if_true]
    rw [← hi]
    rfl
  · have hopened := get?_openedRoster s name name i
    rw [if_pos rfl, hi, Option.map_some] at hopened
    have hdetached : i.screen.isAttached = false := by simp [Screen.isAttached, hw]
    simp only [perform, Step.orStay, Step.attempt, select, if_pos ha, hi,
      display_of_detached s name hw, facet_propose?, hopened]
    simp only [Facet.display, facet, hi, hdetached]
    rfl
  · have hnone : s.roster.get? name = none := hn.resolve_left (by simp [ha])
    rw [hp]
    simp [Facet.display, facet, hnone]

private theorem facet_forget (s : State) {name other : String} (h : other ≠ name) :
    (s.perform (.forget other)).state.facet name = s.facet name := by
  have hg := get?_forget s other name
  rw [if_neg (Ne.symm h)] at hg
  have hrest :
      ({ (s.forget other).state with roster := {} } : State) = { s with roster := {} } := by
    obtain ⟨_, he⟩ := s.forget_eq other
    rw [he]
    rfl
  simp only [facet, perform, hg, hrest]

/-- What an act about an instance does to it. -/
theorem facet_perform {s : State} (ha : s.isAlive = true) {name : String} {a : Act}
    (h : a.About name) : (s.perform a).state.facet name = (s.facet name).perform name a := by
  cases h with
  | learn h =>
    subst h
    exact facet_learn s _
  | display => exact facet_display ha name
  | forget h => exact facet_forget s h

/-- What acts about an instance do to it. -/
theorem facet_performAll {s : State} (ha : s.isAlive = true) {name : String} {as : List Act}
    (h : ∀ a ∈ as, a.About name) :
    (s.performAll as).state.facet name =
      as.foldl (fun f a => f.perform name a) (s.facet name) := by
  induction as generalizing s with
  | nil => rfl
  | cons a as ih =>
    have hfirst := h a List.mem_cons_self
    have hrest := ih ((isAlive_about hfirst).trans ha) fun b hb => h b (List.mem_cons_of_mem a hb)
    rw [List.foldl_cons, ← facet_perform ha hfirst]
    exact hrest

/-- An act about one instance leaves another one alone, unless it takes that one out. -/
theorem get?_perform_other {s : State} {name other : String} {a : Act} (h : a.About name)
    (hn : other ≠ name) :
    (s.perform a).state.roster.get? other =
      if a.removes other then none else s.roster.get? other := by
  cases h with
  | @learn record h =>
    have hg := Roster.get?_upsert s.roster record other
    rwa [if_neg (by rwa [h])] at hg
  | display =>
    rcases display_cases s name with ⟨_, _, -, -, -, hp⟩ | ⟨i, _, _, -, -, -, hp⟩ | ⟨-, hp⟩
    · rw [hp]
      rfl
    · have hg := get?_openedRoster s name other i
      rw [hp]
      rwa [if_neg hn] at hg
    · rw [hp]
      rfl
  | @forget out h =>
    rw [perform, get?_forget]
    by_cases he : other = out
    · simp [Act.removes, he]
    · simp [Act.removes, he, beq_false_of_ne (Ne.symm he)]

theorem get?_performAll_other {s : State} {name other : String} {as : List Act}
    (h : ∀ a ∈ as, a.About name) (hn : other ≠ name) :
    (s.performAll as).state.roster.get? other =
      if as.any (·.removes other) then none else s.roster.get? other := by
  induction as generalizing s with
  | nil => rfl
  | cons a as ih =>
    have hrest := ih (s := (s.perform a).state) fun b hb => h b (List.mem_cons_of_mem a hb)
    rw [get?_perform_other (h a List.mem_cons_self) hn] at hrest
    rw [performAll_cons, Step.andThen, hrest, List.any_cons]
    cases a.removes other <;> cases as.any (·.removes other) <;> rfl

/-- Acts about the selected instance leave it selected. -/
theorem selected_performAll {s : State} {name : String} (hs : s.roster.selected = some name)
    {as : List Act} (h : ∀ a ∈ as, a.About name) :
    (s.performAll as).state.roster.selected = some name := by
  induction as generalizing s with
  | nil => exact hs
  | cons a as ih =>
    refine ih ?_ fun b hb => h b (List.mem_cons_of_mem a hb)
    cases h a List.mem_cons_self with
    | @learn record h => exact (Roster.selected_upsert s.roster record).trans hs
    | display =>
      rcases display_cases s name with ⟨_, _, -, -, -, hp⟩ | ⟨_, _, _, -, -, -, hp⟩ | ⟨-, hp⟩
      · rw [hp]
      · rw [hp]
        rfl
      · rw [hp]
        exact hs
    | @forget other ho =>
      have hne : s.roster.selected ≠ some other := by
        rw [hs]
        simpa using Ne.symm ho
      exact (selected_forget hne).trans hs

/-- An instance that is displayed is selected. -/
theorem selected_display {s : State} (ha : s.isAlive = true) {name : String} {i : Instance}
    (hi : s.roster.get? name = some i) :
    (s.perform (.display name)).state.roster.selected = some name := by
  rcases display_cases s name with ⟨_, _, -, -, -, hp⟩ | ⟨_, _, _, -, -, -, hp⟩ | ⟨hn, -⟩
  · rw [hp]
  · rw [hp]
    rfl
  · rcases hn with hn | hn
    · exact absurd (ha.symm.trans hn) (by simp)
    · exact absurd (hi.symm.trans hn) (by simp)

/-! ## Acts that describe an instance twice -/

/-- Two states are the same but for the order in which the tables of their rosters list things. -/
structure Matches (t u : State) : Prop where
  /-- All but the roster is the same: the viewport with its proposal, the builder console, the
  timers, the numbers. -/
  rest : ({ t with roster := {} } : State) = { u with roster := {} }
  order : t.roster.order = u.roster.order
  selected : t.roster.selected = u.roster.selected
  /-- Each instance is the same: its record, whether it is confirmed, its widget and its input. -/
  instances : ∀ name, t.roster.get? name = u.roster.get? name
  holders : ∀ host, t.roster.holders.get? host = u.roster.holders.get? host

/-- An instance has come in the place of a placeholder, and is shown. -/
structure Settled (s : State) (key name : String) : Prop where
  gone : s.roster.get? key = none
  once : s.roster.order.count name = 1
  selected : s.roster.selected = some name
  shown : ∃ i, s.roster.get? name = some i ∧ i.provisional = false ∧ i.screen.isAttached = true

end State

/-- What acts do about an instance that is described by two records, and asked for under a key. -/
structure Describes (key : String) (push answer : Record) (as : List Act) : Prop where
  about : ∀ a ∈ as, a.About answer.name
  /-- Nothing but the placeholder is taken out. -/
  removes : ∀ name, as.any (·.removes name) = (key == name)
  /-- The host names that the two records carry are brought, and no others. -/
  brings : ∀ host, as.any (fun a => a.brings? host == some answer.name) =
    (push.hostname == some host || answer.hostname == some host)
  /-- The instance is displayed when the request is answered. -/
  displays : ∃ before later, as = before ++ .learn answer :: .display answer.name :: later
  facet : ∀ f : Facet, as.foldl (fun f a => f.perform answer.name a) f =
    ((f.learn push).learn answer).display answer.name

namespace State

variable {s : State} {key : String} {push answer : Record} {as : List Act}

/-- The instance that was described is confirmed, has a widget, and has the host name that either
record carries. -/
private theorem exists_of_describes (h : Describes key push answer as) (ha : s.isAlive = true) :
    ∃ i, (s.performAll as).state.roster.get? answer.name = some i ∧ i.provisional = false ∧
      i.screen.isAttached = true ∧
      i.hostname = (answer.hostname <|> push.hostname <|>
        (s.roster.get? answer.name).bind Instance.hostname) := by
  obtain ⟨i, hi, -, hih⟩ := (s.facet answer.name).exists_learn push
  obtain ⟨j, hj, hjp, hjh⟩ := ((s.facet answer.name).learn push).exists_learn answer
  obtain ⟨k, hk, hka, hkp, hkh⟩ := Facet.exists_display _ answer.name hj
  have hf := (facet_performAll ha h.about).trans (h.facet (s.facet answer.name))
  refine ⟨k, ?_, hkp.trans hjp, hka, ?_⟩
  · rw [← hk, ← hf]
    rfl
  · rw [hkh, hjh, hi, Option.bind_some, hih]
    rfl

private theorem selected_of_describes (h : Describes key push answer as) (ha : s.isAlive = true) :
    (s.performAll as).state.roster.selected = some answer.name := by
  have habout := h.about
  obtain ⟨before, later, rfl⟩ := h.displays
  let u := (s.performAll before).state
  have hu : u.isAlive = true := by
    refine Eq.trans (isAlive_performAll fun a hm => ?_) ha
    rintro rfl
    cases habout .terminate (List.mem_append_left _ hm)
  have hi := Roster.get?_upsert_self u.roster answer
  have hshown := selected_display (s := (u.perform (.learn answer)).state) hu hi
  have hall := selected_performAll hshown fun a hm =>
    habout a (List.mem_append_right _ (List.mem_cons_of_mem _ (List.mem_cons_of_mem _ hm)))
  rw [performAll_append]
  exact hall

/-- A host name that one of the records carries goes to the instance that they describe, every other
one is inherited. -/
private theorem holders_of_describes (h : Describes key push answer as) (hs : s.Coherent)
    (hx : s.roster.Indexed) (ha : s.isAlive = true) (hagree : answer.Agrees push) (host : String) :
    let t := (s.performAll as).state.roster
    t.holders.get? host =
      if push.hostname = some host ∨ answer.hostname = some host then some answer.name
      else ((s.roster.holders.get? host).filter (t.bearers host).contains).or
        (t.bearers host).head? := by
  intro t
  have hbrings : (∃ a ∈ as, a.brings? host = some answer.name) ↔
      push.hostname = some host ∨ answer.hostname = some host := by
    have hb := h.brings host
    rw [Bool.eq_iff_iff] at hb
    simpa using hb
  have honly : ∀ a ∈ as, ∀ n, a.brings? host = some n → n = answer.name := by
    intro a hm n hb
    cases h.about a hm with
    | @learn record hn =>
      obtain ⟨-, rfl⟩ : record.hostname = some host ∧ record.name = n := by
        simpa [Act.brings?] using hb
      exact hn
    | display => cases hb
    | forget => cases hb
  split
  · next hc =>
    obtain ⟨i, hi, -, -, hih⟩ := exists_of_describes h ha
    have hhost : i.hostname = some host := by
      rw [hih]
      rcases hc with hp | hr
      · cases hr : answer.hostname with
        | none => simp [hp]
        | some own => simp [hagree.hostname own hr host hp]
      · simp [hr]
    exact holder_performAll hx hs (hbrings.mpr hc) honly
      (Roster.bears_iff.mpr ⟨i, hi, hhost⟩)
  · next hc =>
    have hnone : ∀ a ∈ as, a.brings? host = none := by
      intro a hm
      cases hb : a.brings? host with
      | none => rfl
      | some n => exact absurd (hbrings.mp ⟨a, hm, honly a hm n hb ▸ hb⟩) hc
    exact (inherits_performAll hx hs hnone).holder

/-- What is done about an instance that is described by two records comes to the same, if it leaves
the display order the same. -/
theorem matches_of_describes {bs : List Act} (h : Describes key push answer as)
    (h' : Describes key push answer bs) (hs : s.Coherent) (hx : s.roster.Indexed)
    (ha : s.isAlive = true) (hagree : answer.Agrees push)
    (ho : (s.performAll as).state.roster.order = (s.performAll bs).state.roster.order) :
    (s.performAll as).state.Matches (s.performAll bs).state := by
  have hfacet : (s.performAll as).state.facet answer.name =
      (s.performAll bs).state.facet answer.name := by
    rw [facet_performAll ha h.about, facet_performAll ha h'.about, h.facet, h'.facet]
  have hinstances : ∀ name, (s.performAll as).state.roster.get? name =
      (s.performAll bs).state.roster.get? name := by
    intro name
    by_cases hn : name = answer.name
    · rw [hn]
      exact congrArg Facet.instance? hfacet
    · rw [get?_performAll_other h.about hn, get?_performAll_other h'.about hn, h.removes,
        h'.removes]
  have hbearers : ∀ host, (s.performAll as).state.roster.bearers host =
      (s.performAll bs).state.roster.bearers host := by
    intro host
    have hb : (s.performAll as).state.roster.bears host =
        (s.performAll bs).state.roster.bears host := by
      funext name
      rw [Roster.bears, Roster.bears, hinstances]
    rw [Roster.bearers, Roster.bearers, ho, hb]
  refine ⟨congrArg Facet.rest hfacet, ho, ?_, hinstances, ?_⟩
  · rw [selected_of_describes h ha, selected_of_describes h' ha]
  · intro host
    rw [holders_of_describes h hs hx ha hagree, holders_of_describes h' hs hx ha hagree, hbearers]

/-- The instance has come, and the placeholder is gone. -/
theorem settled_of_describes (h : Describes key push answer as) (hs : s.Coherent)
    (ha : s.isAlive = true) (hk : answer.name ≠ key) :
    (s.performAll as).state.Settled key answer.name := by
  obtain ⟨i, hi, hp, hattached, -⟩ := exists_of_describes h ha
  have hc := (hs.performAll as).roster
  constructor
  · rw [get?_performAll_other h.about (Ne.symm hk), h.removes, beq_self_eq_true, if_pos rfl]
  · exact List.count_eq_one_of_mem hc.nodup
      ((hc.mem_order answer.name).mpr (Roster.contains_of_get? hi))
  · exact selected_of_describes h ha
  · exact ⟨i, hi, hp, hattached⟩

/-! ## The two orders -/

private theorem foldl_displays {name : String} (h : ∀ a ∈ as, a = .display name) (f : Facet) :
    as.foldl (fun f a => f.perform name a) f = f ∨
      as.foldl (fun f a => f.perform name a) f = f.display name := by
  induction as generalizing f with
  | nil => exact .inl rfl
  | cons a as ih =>
    obtain rfl := h a List.mem_cons_self
    have hrest := ih (fun b hb => h b (List.mem_cons_of_mem _ hb)) (f.display name)
    rw [Facet.display_display, or_self] at hrest
    exact .inr hrest

private theorem brings?_learn (host : String) {record : Record} {name : String}
    (h : record.name = name) :
    ((Act.learn record).brings? host == some name) = (record.hostname == some host) := by
  by_cases hr : record.hostname = some host <;> simp [Act.brings?, hr, h]

section

variable (hk : answer.name ≠ key) (hn : push.name = answer.name)
  (hd : ∀ a ∈ as, a = .display answer.name)
include hk hn hd

private theorem describes_announced_first :
    Describes key push answer
      (.learn push :: as ++ [.forget key, .learn answer, .display answer.name]) where
  about := by
    intro a ha
    simp only [List.cons_append, List.mem_cons, List.mem_append, List.not_mem_nil, or_false] at ha
    rcases ha with rfl | ha | rfl | rfl | rfl
    · exact .learn hn
    · exact hd a ha ▸ .display
    · exact .forget (Ne.symm hk)
    · exact .learn rfl
    · exact .display
  removes name := by
    have has : as.any (·.removes name) = false :=
      List.any_eq_false.mpr fun a ha => by simp [hd a ha, Act.removes]
    rw [List.any_append, List.any_cons, has]
    simp [Act.removes]
  brings host := by
    have has : as.any (fun a => a.brings? host == some answer.name) = false :=
      List.any_eq_false.mpr fun a ha => by simp [hd a ha, Act.brings?]
    simp only [List.any_append, List.any_cons, has, brings?_learn host hn, brings?_learn host rfl]
    simp [Act.brings?]
  displays := ⟨.learn push :: as ++ [.forget key], [], by simp⟩
  facet f := by
    obtain ⟨i, hi, -⟩ := f.exists_learn push
    rw [List.foldl_append]
    rcases foldl_displays hd (f.learn push) with h | h
    · simp [h]
    · simp [h, Facet.learn_display _ _ hi, Facet.display_display]

private theorem describes_created_first (hagree : answer.Agrees push) :
    Describes key push answer
      (.forget key :: .learn answer :: .display answer.name :: .learn push :: as) where
  about := by
    intro a ha
    simp only [List.mem_cons] at ha
    rcases ha with rfl | rfl | rfl | rfl | ha
    · exact .forget (Ne.symm hk)
    · exact .learn rfl
    · exact .display
    · exact .learn hn
    · exact hd a ha ▸ .display
  removes name := by
    have has : as.any (·.removes name) = false :=
      List.any_eq_false.mpr fun a ha => by simp [hd a ha, Act.removes]
    simp only [List.any_cons, has]
    simp [Act.removes]
  brings host := by
    have has : as.any (fun a => a.brings? host == some answer.name) = false :=
      List.any_eq_false.mpr fun a ha => by simp [hd a ha, Act.brings?]
    simp only [List.any_cons, has, brings?_learn host hn, brings?_learn host rfl]
    simp [Act.brings?, Bool.or_comm]
  displays := ⟨[.forget key], .learn push :: as, rfl⟩
  facet f := by
    obtain ⟨i, hi, -⟩ := f.exists_learn answer
    have hcomm : ((f.learn answer).display answer.name).learn push =
        ((f.learn push).learn answer).display answer.name := by
      rw [Facet.learn_display _ _ hi, Facet.learn_comm f hagree hn.symm]
    simp only [List.foldl_cons, Facet.perform_forget, Facet.perform_learn, Facet.perform_display,
      hcomm]
    rcases foldl_displays hd (((f.learn push).learn answer).display answer.name) with h | h
    · exact h
    · exact h.trans (Facet.display_display _ _)

end

private theorem acts_announced (push : Record) (ha : s.isAlive = true) :
    ∃ as, s.acts (.inbound (.instanceNew push)) = .learn push :: as ∧
      ∀ a ∈ as, a = .display push.name := by
  rw [acts, if_pos ha, inboundActs]
  split
  · exact ⟨_, rfl, by simp⟩
  · exact ⟨_, rfl, by simp⟩

private theorem acts_created (ha : s.isAlive = true) :
    s.acts (.event (.created key (.ok answer))) =
      [.forget key, .learn answer, .display answer.name] := by
  rw [acts, eventActs, if_pos ha]
  rfl

/-- What is done when the instance is announced, and then the request is answered. -/
private theorem describes_announced_created (hs : s.Coherent) (ha : s.isAlive = true)
    (hk : answer.name ≠ key) (hn : push.name = answer.name) :
    Describes key push answer
      (s.deeds [.inbound (.instanceNew push), .event (.created key (.ok answer))]) := by
  obtain ⟨as, hacts, hd⟩ := acts_announced push ha
  have halive := (isAlive_respond hs (.inbound (.instanceNew push))).mpr ⟨ha, by simp⟩
  simp only [deeds, hacts, acts_created halive]
  exact describes_announced_first hk hn (hn ▸ hd)

/-- What is done when the request is answered, and then the instance is announced. -/
private theorem describes_created_announced (hs : s.Coherent) (ha : s.isAlive = true)
    (hk : answer.name ≠ key) (hn : push.name = answer.name) (hagree : answer.Agrees push) :
    Describes key push answer
      (s.deeds [.event (.created key (.ok answer)), .inbound (.instanceNew push)]) := by
  have halive := (isAlive_respond hs (.event (.created key (.ok answer)))).mpr ⟨ha, by simp⟩
  obtain ⟨as, hacts, hd⟩ := acts_announced push halive
  simp only [deeds, hacts, acts_created ha, List.append_nil]
  exact describes_created_first hk hn (hn ▸ hd) hagree

private theorem order_announced (push : Record) (hs : s.Coherent) (hq : s.Quiet)
    (ha : s.isAlive = true) :
    (s.respond (.inbound (.instanceNew push))).state.roster.order =
      s.roster.order ++ if s.roster.contains push.name then [] else [push.name] := by
  rw [order_respond hs hq, arrivals, if_pos ha]
  cases hc : s.roster.contains push.name <;>
    simp [Stimulus.removes, Stimulus.introduces, List.eraseDups_cons, hc]

private theorem order_created (hs : s.Coherent) (hq : s.Quiet) (ha : s.isAlive = true)
    (hk : answer.name ≠ key) :
    (s.respond (.event (.created key (.ok answer)))).state.roster.order =
      (s.roster.order.filter fun name => !(key == name)) ++
        if s.roster.contains answer.name then [] else [answer.name] := by
  rw [order_respond hs hq, arrivals, if_pos ha]
  cases hc : s.roster.contains answer.name <;>
    simp [Stimulus.removes, Stimulus.introduces, List.eraseDups_cons, hc, Ne.symm hk]

/-- If the name comes in, it goes to the end of the display order in either case. -/
private theorem order_announced_created (hs : s.Coherent) (hq : s.Quiet) (ha : s.isAlive = true)
    (hk : answer.name ≠ key) (hn : push.name = answer.name) :
    (s.run [.inbound (.instanceNew push), .event (.created key (.ok answer))]).state.roster.order =
      (s.run [.event (.created key (.ok answer)),
        .inbound (.instanceNew push)]).state.roster.order := by
  -- After the first response the name is there, so that the second leaves it where it is.
  let t := (s.respond (.inbound (.instanceNew push))).state
  let u := (s.respond (.event (.created key (.ok answer)))).state
  have ht : t.roster.order = _ := order_announced push hs hq ha
  have hu : u.roster.order = _ := order_created hs hq ha hk
  have hmem (names : List String) (hm : answer.name ∈ s.roster.order → answer.name ∈ names) :
      answer.name ∈ names ++ if s.roster.contains answer.name then [] else [answer.name] := by
    cases hc : s.roster.contains answer.name with
    | false => simp
    | true => simp [hm ((hs.roster.mem_order answer.name).mpr hc)]
  have htc : t.roster.contains answer.name = true := by
    rw [← (hs.respond (.inbound (.instanceNew push))).roster.mem_order, ht, hn]
    exact hmem _ id
  have huc : u.roster.contains answer.name = true := by
    rw [← (hs.respond (.event (.created key (.ok answer)))).roster.mem_order, hu]
    exact hmem _ fun hm => List.mem_filter.mpr ⟨hm, by simp [Ne.symm hk]⟩
  have hta : t.isAlive = true := (isAlive_respond hs _).mpr ⟨ha, by simp⟩
  have hua : u.isAlive = true := (isAlive_respond hs _).mpr ⟨ha, by simp⟩
  have hfirst := order_created (s := t) (hs.respond _) (quiet_respond hs hq _) hta hk
  have hsecond := order_announced push (s := u) (hs.respond _) (quiet_respond hs hq _) hua
  rw [htc, if_pos rfl, ht] at hfirst
  rw [hn, huc, if_pos rfl, hu] at hsecond
  refine hfirst.trans (Eq.trans ?_ hsecond.symm)
  rw [hn]
  cases s.roster.contains answer.name <;> simp [Ne.symm hk]

/-- The answer to a request and the announcement of its instance can come in any order. -/
theorem announced_created_comm (id : String) (setup : Setup) (xs : List Stimulus)
    {key : String} {push answer : Record}
    (ha : ((initial id setup).run xs).state.isAlive = true)
    (hn : push.name = answer.name) (hk : answer.name ≠ key) (hagree : answer.Agrees push) :
    let s := ((initial id setup).run xs).state
    let announced := Stimulus.inbound (.instanceNew push)
    let answered := Stimulus.event (.created key (.ok answer))
    let t := (s.run [announced, answered]).state
    let u := (s.run [answered, announced]).state
    t.Matches u ∧ t.Settled key answer.name ∧ u.Settled key answer.name := by
  intro s announced answered t u
  have hs : s.Coherent := coherent_run id setup xs
  have hq : s.Quiet := quiet_run id setup xs
  have hx : s.roster.Indexed := indexed_run id setup xs
  have hfirst := describes_announced_created hs ha hk hn
  have hsecond := describes_created_announced hs ha hk hn hagree
  have ho := order_announced_created hs hq ha hk hn
  have ht : t = (s.performAll (s.deeds [announced, answered])).state :=
    congrArg Step.state (run_eq hs _)
  have hu : u = (s.performAll (s.deeds [answered, announced])).state :=
    congrArg Step.state (run_eq hs _)
  rw [ht, hu]
  refine ⟨matches_of_describes hfirst hsecond hs hx ha hagree ?_,
    settled_of_describes hfirst hs ha hk, settled_of_describes hsecond hs ha hk⟩
  rw [← ht, ← hu]
  exact ho

/-- Nothing is shown but the placeholder of a request on its way; the instance that comes shares its
host name with one that is known. -/
theorem announced_created_for_placeholder :
    let xs : List Stimulus :=
      [.refit fun _ => some { cols := 80, rows := 24 }, .command "pending-1" (.create {}),
        .select "pending-1", .inbound (.instanceNew { name := "a", hostname := some "host" }),
        .select "pending-1"]
    let push : Record := { name := "b", hostname := some "host", ip := some "10.0.0.2" }
    let answer : Record := { name := "b", hostname := some "host", image := some "alpine" }
    let s := ((initial "s1" {}).run xs).state
    let announced := Stimulus.inbound (.instanceNew push)
    let answered := Stimulus.event (.created "pending-1" (.ok answer))
    let t := (s.run [announced, answered]).state
    let u := (s.run [answered, announced]).state
    Effect.requests ((initial "s1" {}).run xs).effects = [.create "pending-1" {}] ∧
      s.isAlive = true ∧ push.name = answer.name ∧ answer.name ≠ "pending-1" ∧
      answer.Agrees push ∧ t.Matches u ∧ t.Settled "pending-1" answer.name ∧
      u.Settled "pending-1" answer.name := by
  intro xs push answer
  have hasked : Effect.requests ((initial "s1" {}).run xs).effects =
      [.create "pending-1" {}] := by decide +kernel
  have ha : ((initial "s1" {}).run xs).state.isAlive = true := by decide +kernel
  have hk : answer.name ≠ "pending-1" := by decide
  have hagree : answer.Agrees push := by constructor <;> simp [answer, push]
  exact ⟨hasked, ha, rfl, hk, hagree, announced_created_comm "s1" {} xs ha rfl hk hagree⟩

end State
end TermSync.Session

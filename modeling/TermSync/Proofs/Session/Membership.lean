import TermSync.Proofs.Session.Coherence

/-!
# What brings instances in and takes them out

An instance comes in with the first stimulus that speaks of it, and stays until a stimulus takes it
out or the session ends. Both can be read off the stimuli and off the acts of which the responses
are made; `deeds` lists the acts of a whole run.

Main statements: `run_eq` (a run is its acts), `quiet_run` (no instance is left once the session
has ended), `order_perform` (what comes in goes to the end, and nothing else moves),
`acts_of_removes` (what is taken out is taken out first).
-/

namespace TermSync.Session

open Roster (Instance Record)
open Rest (SessionRecord)

/-! ## What brings instances in and takes them out -/

namespace Act

/-- The names that are in use after an act, whether or not they were before. -/
def introduces : Act → List String
  | .learn record => [record.name]
  | .expect key => [key]
  | .route name _ => [name]
  | _ => []

/-- Whether an act takes out the instance with a name, if there is one. -/
def removes (name : String) : Act → Bool
  | .forget n => n == name
  | .terminate => true
  | _ => false

/-- A view of acts that shows only what is brought to an instance: what is known of it, output or
input, or the time to send. -/
structure Shows {β : Type} (f : Act → List β) : Prop where
  forget : ∀ name, f (.forget name) = []
  display : ∀ name, f (.display name) = []
  resizeAll : ∀ g, f (.resizeAll g) = []
  note : ∀ name n, f (.note name n) = []
  terminate : f .terminate = []
  moveTo : ∀ moment, f (.moveTo moment) = []
  aside : ∀ a, f (.aside a) = []

end Act

namespace Stimulus

/-- The names that are in use after a stimulus, whether or not they were before. -/
def introduces : Stimulus → List String
  | .bootstrap (.ok r) => r.instances.map fun entry => entry.2.name
  | .command key (.create _) => [key]
  | .inbound (.terminalOut name _) => [name]
  | .inbound (.instanceNew record) => [record.name]
  | .event (.created _ (.ok record)) => [record.name]
  | _ => []

/-- Whether a stimulus takes out the instance with a name, if there is one. -/
def removes (name : String) : Stimulus → Bool
  | .inbound (.instanceDelete n) => n == name
  | .inbound .sessionEnd => true
  | .event (.created key _) => key == name
  | .event (.deleted n (.ok ())) => n == name
  | _ => false

end Stimulus

namespace State

/-- The names that come in with a stimulus, in order: those that it introduces and that were not
in use before, or not any more. -/
def arrivals (s : State) (x : Stimulus) : List String :=
  if s.isAlive then
    x.introduces.eraseDups.filter fun name => !s.roster.contains name || x.removes name
  else []

/-- The names that come in during a run, in order. A name comes in again if it was taken out. -/
def arrivalLog (s : State) (xs : List Stimulus) : List String := s.gather arrivals xs

/-! ## The acts of a run -/

/-- What is done during a run. -/
def deeds (s : State) : List Stimulus → List Act
  | [] => []
  | x :: xs => s.acts x ++ (s.respond x).state.deeds xs

/-- A run is what is done during it. -/
theorem run_eq {s : State} (h : s.Coherent) (xs : List Stimulus) :
    s.run xs = s.performAll (s.deeds xs) := by
  induction xs generalizing s with
  | nil => rfl
  | cons x xs ih =>
    rw [run_cons, deeds, performAll_append, ← respond_eq h.roster]
    simp only [Step.andThen, ih (h.respond x)]

/-! ## The end of the session -/

/-- Only the end of the session ends it. -/
theorem isAlive_perform (s : State) {a : Act} (h : a ≠ .terminate) :
    (s.perform a).state.isAlive = s.isAlive := by
  cases a with
  | forget name =>
    obtain ⟨_, he⟩ := s.forget_eq name
    rw [perform, he]
    rfl
  | display name =>
    rcases display_cases s name with ⟨_, _, -, -, -, hp⟩ | ⟨_, _, _, -, -, -, hp⟩ | ⟨-, hp⟩ <;>
      rw [hp] <;> rfl
  | flush name =>
    cases hi : s.roster.get? name with
    | none => rw [perform, flush_eq_of_none hi]
    | some i =>
      rw [perform, flush_eq hi]
      rfl
  | terminate => exact absurd rfl h
  | aside a => exact (performAside_apart s a).alive
  | _ => rfl

theorem isAlive_forget (s : State) (name : String) :
    (s.forget name).state.isAlive = s.isAlive :=
  isAlive_perform s (a := .forget name) (by simp)

theorem isAlive_performAll {s : State} {as : List Act} (h : ∀ a ∈ as, a ≠ .terminate) :
    (s.performAll as).state.isAlive = s.isAlive := by
  induction as generalizing s with
  | nil => rfl
  | cons a as ih =>
    rw [performAll_cons]
    exact (ih fun b hb => h b (List.mem_cons_of_mem a hb)).trans
      (isAlive_perform s (h a List.mem_cons_self))

theorem display_of_mem_showActs {s : State} {a : Act} (ha : a ∈ s.showActs) :
    ∃ name, a = .display name := by
  unfold showActs at ha
  split at ha
  · next i _ => exact ⟨i.name, List.mem_singleton.mp ha⟩
  · cases ha

/-! ## What acts amount to -/

/-- The acts among those about a stimulus that bring something to an instance. -/
def bringing (s : State) : Stimulus → List Act
  | .bootstrap (.ok r) => r.instances.map fun entry => .learn entry.2
  | .command key (.create _) => [.expect key]
  | .command _ (.input name data) =>
    if (s.roster.get? name).any fun i => i.screen.isAttached then [.type name data] else []
  | .inbound (.terminalOut name data) => [.route name data]
  | .inbound (.instanceNew record) => [.learn record]
  | .event (.flushTick name) => [.flush name]
  | .event (.created _ (.ok record)) => [.learn record]
  | _ => []

section

variable {β : Type} {f : Act → List β}

private theorem flatMap_showActs (s : State) (hf : Act.Shows f) :
    s.showActs.flatMap f = [] := by
  rw [List.flatMap_eq_nil_iff]
  intro a ha
  obtain ⟨name, rfl⟩ := display_of_mem_showActs ha
  exact hf.display name

private theorem flatMap_loadActs (s : State) (r : SessionRecord)
    (hf : Act.Shows f) :
    (s.loadActs r).flatMap f = (r.instances.map fun entry => .learn entry.2).flatMap f := by
  simp only [loadActs, List.cons_append, List.flatMap_cons, List.flatMap_append, hf.aside,
    List.flatMap_nil, List.nil_append, List.append_nil]
  split <;> simp [hf.display]

/-- What is brought to instances is all that such a view shows. -/
theorem flatMap_acts (hf : Act.Shows f) {s : State} (ha : s.isAlive = true)
    (x : Stimulus) : (s.acts x).flatMap f = (s.bringing x).flatMap f := by
  have hshow (s : State) : s.showActs.flatMap f = [] := flatMap_showActs s hf
  cases x with
  | bootstrap answer =>
    cases answer with
    | error e => rfl
    | ok r =>
      rw [acts, if_pos ha]
      exact flatMap_loadActs s r hf
  | command key c =>
    rw [acts, if_pos ha]
    cases c with
    | delete name => simp only [commandActs]; split <;> simp [bringing, hf.aside]
    | input name data =>
      simp only [commandActs, bringing]
      cases s.roster.get? name <;> rfl
    | fit => simp only [commandActs]; split <;> simp [bringing, hf.aside]
    | _ => simp [commandActs, bringing, hf.display, hf.aside]
  | inbound e =>
    rw [acts, if_pos ha]
    cases e with
    | instanceNew record => simp only [inboundActs]; split <;> simp [bringing, hf.display]
    | instanceDelete name => simp [inboundActs, bringing, hf.forget, hshow]
    | swarmPorts r => simp [inboundActs, bringing, List.flatMap_map, hf.note]
    | _ => simp [inboundActs, bringing, hf.resizeAll, hf.note, hf.terminate, hf.aside]
  | event e =>
    rw [acts]
    cases e with
    | countdownTick => simp [eventActs, ha, bringing, hf.aside]
    | created key answer =>
      cases answer <;>
        simp [eventActs, ha, createdActs, bringing, hf.forget, hf.display, hf.aside, hshow]
    | deleted name answer =>
      cases answer <;>
        simp [eventActs, ha, deletedActs, bringing, hf.forget, hf.aside, hshow]
    | _ => simp [eventActs, bringing, hf.aside]
  | _ => simp [acts, bringing, hf.display, hf.moveTo, hf.aside]

end

/-! ## What takes instances out -/

private theorem cause_of_mem_loadActs {s : State} {r : SessionRecord} {a : Act}
    (ha : a ∈ s.loadActs r) : (∀ name, a ≠ .forget name) ∧ a ≠ .terminate := by
  simp only [loadActs, List.cons_append, List.mem_cons, List.mem_append, List.mem_map,
    List.not_mem_nil, or_false] at ha
  rcases ha with rfl | ⟨entry, -, rfl⟩ | ha | rfl
  · simp
  · simp
  · split at ha
    · cases List.mem_singleton.mp ha
      simp
    · cases ha
  · simp

/-- Nothing is taken out and nothing ends but for a reason. -/
theorem cause_of_mem_acts {s : State} {x : Stimulus} {a : Act} (ha : a ∈ s.acts x) :
    (∀ name, a = .forget name → x.removes name = true) ∧
      (a = .terminate → x = .inbound .sessionEnd) := by
  cases x with
  | bootstrap answer =>
    cases answer with
    | error e => simp [acts] at ha
    | ok r =>
      simp only [acts] at ha
      split at ha
      · have hl := cause_of_mem_loadActs ha
        exact ⟨fun name h => absurd h (hl.1 name), fun h => absurd h hl.2⟩
      · cases ha
  | command key c =>
    simp only [acts] at ha
    split at ha
    · cases c <;> simp only [commandActs] at ha <;> grind
    · cases ha
  | inbound e =>
    simp only [acts] at ha
    split at ha
    · cases e <;> simp only [inboundActs] at ha <;>
        grind [Stimulus.removes, display_of_mem_showActs]
    · cases ha
  | event e =>
    cases e with
    | created key answer =>
      cases answer <;> simp only [acts, eventActs, createdActs] at ha <;>
        grind [Stimulus.removes, display_of_mem_showActs]
    | deleted name answer =>
      cases answer with
      | error e =>
        simp only [acts, eventActs, deletedActs] at ha
        grind
      | ok u =>
        cases u
        simp only [acts, eventActs, deletedActs] at ha
        grind [Stimulus.removes, display_of_mem_showActs]
    | _ => simp only [acts, eventActs] at ha; grind
  | _ =>
    cases List.mem_singleton.mp ha
    simp

theorem isAlive_performAll_of_dead {s : State} (h : s.isAlive = false) (as : List Act) :
    (s.performAll as).state.isAlive = false := by
  refine performAll_induction (P := fun s => s.isAlive = false) h (fun s a hs => ?_) as
  by_cases ha : a = .terminate
  · subst ha
    simp [perform, terminate, hs]
  · exact (isAlive_perform s ha).trans hs

/-- A session is alive until it is told its end. -/
theorem isAlive_respond {s : State} (h : s.Coherent) (x : Stimulus) :
    (s.respond x).state.isAlive = true ↔ s.isAlive = true ∧ x ≠ .inbound .sessionEnd := by
  rw [respond_eq h.roster]
  cases ha : s.isAlive with
  | false => simp [isAlive_performAll_of_dead ha]
  | true =>
    by_cases hx : x = .inbound .sessionEnd
    · have hdead : (s.perform .terminate).state.isAlive = false := by
        rw [perform, terminate, if_pos ha]
        rfl
      rw [hx, acts, if_pos ha, inboundActs, performAll_singleton, hdead]
      simp
    · rw [isAlive_performAll fun a hm he => hx ((cause_of_mem_acts hm).2 he), ha]
      simp [hx]

theorem isAlive_run {s : State} (h : s.Coherent) (xs : List Stimulus) :
    (s.run xs).state.isAlive = true ↔ s.isAlive = true ∧ .inbound .sessionEnd ∉ xs := by
  induction xs generalizing s with
  | nil => simp
  | cons x xs ih =>
    rw [run_cons, Step.andThen]
    refine (ih (h.respond x)).trans ?_
    rw [isAlive_respond h, List.mem_cons, not_or, and_assoc]
    exact and_congr_right fun _ => and_congr_left fun _ => ⟨Ne.symm, Ne.symm⟩

/-- A session that lives to the end of a run was alive before, and was not told its end. -/
theorem isAlive_of_run_cons {s : State} (h : s.Coherent) {x : Stimulus} {xs : List Stimulus}
    (ha : (s.run (x :: xs)).state.isAlive = true) :
    s.isAlive = true ∧ x ≠ .inbound .sessionEnd := by
  obtain ⟨hs, hx⟩ := (isAlive_run h (x :: xs)).mp ha
  exact ⟨hs, fun he => hx (he ▸ List.mem_cons_self)⟩

/-- What is done about a stimulus takes out no more than the stimulus says. -/
theorem removes_of_mem_acts {s : State} {x : Stimulus} {name : String}
    (hx : x.removes name = false) {a : Act} (ha : a ∈ s.acts x) : a.removes name = false := by
  obtain ⟨hf, ht⟩ := cause_of_mem_acts ha
  cases a with
  | forget n =>
    by_cases hn : n = name
    · rw [← hn, hf n rfl] at hx
      cases hx
    · exact beq_false_of_ne hn
  | terminate =>
    rw [ht rfl] at hx
    cases hx
  | _ => rfl

/-- To take something out is done first, and nothing is taken out after it. -/
theorem acts_of_removes {s : State} (ha : s.isAlive = true) {x : Stimulus} {name : String}
    (hx : x.removes name = true) :
    x = .inbound .sessionEnd ∨
      ∃ n as, s.acts x = .forget n :: as ∧ (∀ m, x.removes m = (n == m)) ∧
        ∀ a ∈ as, ∀ m, a.removes m = false := by
  have hshow (t : State) : ∀ a ∈ t.showActs, ∀ m, a.removes m = false := by
    intro a hm m
    obtain ⟨n, rfl⟩ := display_of_mem_showActs hm
    rfl
  cases x with
  | inbound e =>
    cases e with
    | instanceDelete n =>
      exact .inr ⟨n, _, by rw [acts, if_pos ha, inboundActs], fun _ => rfl, hshow _⟩
    | sessionEnd => exact .inl rfl
    | _ => cases hx
  | event e =>
    cases e with
    | created key answer =>
      cases answer with
      | ok r =>
        refine .inr ⟨key, _, by rw [acts, eventActs, if_pos ha, createdActs], fun _ => rfl, ?_⟩
        simp [Act.removes]
      | error e =>
        refine .inr ⟨key, _, by rw [acts, eventActs, if_pos ha, createdActs], fun _ => rfl, ?_⟩
        intro a hm m
        rcases List.mem_cons.mp hm with rfl | hm
        · rfl
        · exact hshow _ a hm m
    | deleted n answer =>
      cases answer with
      | ok u =>
        exact .inr ⟨n, _, by rw [acts, eventActs, if_pos ha, deletedActs], fun _ => rfl, hshow _⟩
      | error e => cases hx
    | _ => cases hx
  | _ => cases hx

/-- Once the session has ended no instance is left. -/
def Quiet (s : State) : Prop := s.isAlive = false → s.roster = {}

/-- Whatever reaches a session that has ended, no instance comes in. -/
theorem roster_acts_of_dead {s : State} (ha : s.isAlive = false) (hr : s.roster = {})
    (x : Stimulus) : (s.performAll (s.acts x)).state.roster = {} := by
  have hd : ∀ name, (s.perform (.display name)).state.roster = {} := by
    intro name
    have hp : s.perform (.display name) = { state := s } := by
      simp [perform, Step.orStay, Step.attempt, select, ha]
    rw [hp, hr]
  have hs : ∀ a, (s.performAll [.aside a]).state.roster = {} := by
    intro a
    rw [performAll_singleton]
    exact (performAside_apart s a).roster.trans hr
  cases x with
  | bootstrap answer => cases answer <;> simp [acts, ha, hr]
  | command key c => simp [acts, ha, hr]
  | inbound e => simp [acts, ha, hr]
  | event e =>
    cases e with
    | flushTick name =>
      have hn : s.roster.get? name = none := by rw [hr]; rfl
      rw [acts, eventActs, performAll_singleton, perform, flush_eq_of_none hn, hr]
    | resizeSettled => exact hs .settle
    | _ => simp [acts, eventActs, ha, hr]
  | select name =>
    rw [acts, performAll_singleton]
    exact hd name
  | pass moment =>
    rw [acts, performAll_singleton, perform, Loop.moveState, hr]
    rfl
  | attachBuilder => exact hs .attachBuilder
  | tell n => exact hs (.tell n)
  | setClock moment => exact hs (.setClock moment)
  | number count => exact hs (.number count)
  | refit fits => exact hs (.refit fits)

/-- No response leaves an instance in a session that has ended. -/
theorem quiet_respond {s : State} (h : s.Coherent) (hq : s.Quiet) (x : Stimulus) :
    (s.respond x).state.Quiet := by
  rw [respond_eq h.roster]
  intro hd
  cases ha : s.isAlive with
  | false => exact roster_acts_of_dead ha (hq ha) x
  | true =>
    by_cases hx : x = .inbound .sessionEnd
    · subst hx
      simp [acts, ha, inboundActs, performAll_singleton, perform, terminate]
    · rw [isAlive_performAll fun a hm he => hx ((cause_of_mem_acts hm).2 he), ha] at hd
      cases hd

theorem quiet_initial (id : String) (setup : Setup) : (initial id setup).Quiet := by
  intro h
  cases h

theorem quiet_run (id : String) (setup : Setup) (xs : List Stimulus) :
    ((initial id setup).run xs).state.Quiet := by
  have h := run_induction (P := fun s => s.Coherent ∧ s.Quiet)
    ⟨Coherent.initial id setup, quiet_initial id setup⟩
    (fun _ x h => ⟨h.1.respond x, quiet_respond h.1 h.2 x⟩) xs
  exact h.2

/-! ## The display order -/

private theorem order_forget {s : State} (h : s.roster.Consistent) (name : String) :
    (s.forget name).state.roster.order = s.roster.order.filter fun n => !(name == n) := by
  rw [roster_forget, h.order_without]
  simp only [bne, Bool.beq_comm]

/-- What an act introduces goes to the end of the display order, what it removes leaves it, and
nothing else moves. -/
theorem order_perform {s : State} (h : s.roster.Consistent) (ha : s.isAlive = true) (a : Act) :
    (s.perform a).state.roster.order =
      (s.roster.order.filter fun name => !a.removes name) ++
        a.introduces.filter fun name => !s.roster.contains name := by
  have kept : s.roster.order.filter (fun _ => !false) = s.roster.order :=
    List.filter_eq_self.mpr fun _ _ => rfl
  have grown (name : String) : (if s.roster.contains name then s.roster.order
      else s.roster.order ++ [name]) =
        (s.roster.order.filter fun _ => !false) ++
          [name].filter fun name => !s.roster.contains name := by
    rw [kept]
    cases hc : s.roster.contains name <;> simp [hc]
  have still : s.roster.order = (s.roster.order.filter fun _ => !false) ++
      [].filter fun name => !s.roster.contains name := by
    rw [kept, List.filter_nil, List.append_nil]
  cases a with
  | learn record => exact (Roster.order_upsert s.roster record).trans (grown record.name)
  | expect key => exact (Roster.order_insertPlaceholder s.roster key).trans (grown key)
  | route name data => exact (Roster.order_route s.roster name data).trans (grown name)
  | forget name => exact (order_forget h name).trans (List.append_nil _).symm
  | terminate => simp [perform, terminate, ha, Act.removes, Act.introduces]
  | display name =>
    rcases display_cases s name with ⟨_, _, -, -, -, hp⟩ | ⟨_, _, _, -, -, -, hp⟩ | ⟨-, hp⟩ <;>
      rw [hp] <;> exact still
  | flush name =>
    cases hi : s.roster.get? name with
    | none =>
      rw [perform, flush_eq_of_none hi]
      exact still
    | some i =>
      rw [perform, flush_eq hi]
      exact still
  | aside a =>
    rw [perform, (performAside_apart s a).roster]
    exact still
  | _ => exact still

end State
end TermSync.Session

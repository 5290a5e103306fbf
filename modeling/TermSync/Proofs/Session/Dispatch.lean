import TermSync.Session.Dispatch

/-!
# Handlers that fail

Handlers are registered and events are dispatched in any order. Whatever the handlers do, an event
is given to those that were registered for its kind by then: to each once, in the order of their
registration, and on the context that its predecessor left, even if that one failed. What a handler
remembers is what its own last visit left.

`Visits` says what a dispatch is without going through handlers of other kinds, and `Becomes` what
comes of handlers in a history. Main statements: `run_visits` (one dispatch), `becomes_useAll` (any
history) and `dispatch_of_history`.
-/

namespace TermSync.Session

open Wire (EventKind Inbound)

variable {μ γ : Type}

/-! ## Visits -/

/-- A handler is given an event and a context. -/
structure Visit (μ γ : Type) where
  handler : Handler μ γ
  context : γ
  event : Inbound

namespace Visit

/-- What the handler remembers then, the context that it leaves, and how it ends. -/
def result (v : Visit μ γ) : μ × γ × Outcome := v.handler.act v.handler.memory v.context v.event

/-- The handler after the visit. -/
def after (v : Visit μ γ) : Handler μ γ := { v.handler with memory := v.result.1 }

/-- The context that the handler leaves, whether or not it fails. -/
def left (v : Visit μ γ) : γ := v.result.2.1

/-- How the handler ends. -/
def outcome (v : Visit μ γ) : Outcome := v.result.2.2

/-- Visits follow one another from a context to another one: each is on the context that its
predecessor left. -/
def Relay (c : γ) : List (Visit μ γ) → γ → Prop
  | [], d => d = c
  | v :: vs, d => v.context = c ∧ Relay v.left vs d

end Visit

/-- What it is to give an event to the handlers for its kind, of which there are some for each kind:
every one of them is visited once, in order, from a context to another one. -/
structure Visits (handlers : EventKind → List (Handler μ γ)) (c : γ) (e : Inbound)
    (vs : List (Visit μ γ)) (d : γ) : Prop where
  visited : vs.map Visit.handler = handlers e.kind
  event : ∀ v ∈ vs, v.event = e
  relay : Visit.Relay c vs d

/-- The handlers for each kind after those for one kind have been visited. -/
def visited (handlers : EventKind → List (Handler μ γ)) (kind : EventKind)
    (vs : List (Visit μ γ)) : EventKind → List (Handler μ γ) :=
  fun k => if k = kind then vs.map Visit.after else handlers k

namespace Dispatcher

/-- Of a list of handlers with their kinds, those for a kind. -/
def ofKind (kind : EventKind) (hs : List (EventKind × Handler μ γ)) : List (Handler μ γ) :=
  (hs.filter fun h => h.1 = kind).map Prod.snd

/-- The handlers for a kind, in the order of their registration. -/
def handlersFor (d : Dispatcher μ γ) (kind : EventKind) : List (Handler μ γ) :=
  ofKind kind d.handlers

theorem ofKind_cons (kind k : EventKind) (h : Handler μ γ) (hs : List (EventKind × Handler μ γ)) :
    ofKind kind ((k, h) :: hs) = if k = kind then h :: ofKind kind hs else ofKind kind hs := by
  by_cases hk : k = kind <;> simp [ofKind, hk]

theorem handlersFor_on (d : Dispatcher μ γ) (kind k : EventKind) (h : Handler μ γ) :
    (d.on kind h).handlersFor k =
      if k = kind then d.handlersFor k ++ [h] else d.handlersFor k := by
  by_cases hk : k = kind
  · subst hk
    simp [handlersFor, ofKind, on]
  · simp [handlersFor, ofKind, on, hk, Ne.symm hk]

theorem count_eq (d : Dispatcher μ γ) (kind : EventKind) :
    d.count kind = (d.handlersFor kind).length := by
  rw [count, handlersFor, ofKind, List.length_map, List.countP_eq_length_filter]

/-! ## One dispatch -/

/-- The handlers for the event's kind are visited, and the others stay as they are. -/
theorem run_visits (e : Inbound) (c : γ) (hs : List (EventKind × Handler μ γ)) :
    ∃ vs, Visits (fun kind => ofKind kind hs) c e vs (run e c hs).context ∧
      (fun kind => ofKind kind (run e c hs).handlers) =
        visited (fun kind => ofKind kind hs) e.kind vs ∧
      (run e c hs).outcomes = vs.map Visit.outcome := by
  induction hs generalizing c with
  | nil =>
    refine ⟨[], ⟨rfl, by simp, rfl⟩, ?_, rfl⟩
    funext kind
    simp [run, visited, ofKind]
  | cons h hs ih =>
    obtain ⟨k, h⟩ := h
    by_cases hk : k = e.kind
    · -- The handler is visited first, and the others on the context that it leaves.
      let v : Visit μ γ := ⟨h, c, e⟩
      obtain ⟨vs, ⟨hvisited, hevent, hrelay⟩, hhandlers, houtcomes⟩ := ih v.left
      have hrun : run e c ((k, h) :: hs) =
          ⟨(k, v.after) :: (run e v.left hs).handlers, (run e v.left hs).context,
            v.outcome :: (run e v.left hs).outcomes⟩ := by
        simp only [run, hk, if_true]
        rfl
      rw [hrun]
      refine ⟨v :: vs, ⟨?_, ?_, rfl, hrelay⟩, ?_, congrArg _ houtcomes⟩
      · rw [ofKind_cons, if_pos hk]
        exact congrArg _ hvisited
      · exact List.forall_mem_cons.mpr ⟨rfl, hevent⟩
      · funext kind
        have hrest := congrFun hhandlers kind
        simp only [visited] at hrest ⊢
        rw [ofKind_cons, ofKind_cons, hrest]
        by_cases hkind : kind = e.kind
        · simp [hkind, hk]
        · simp [hkind, hk, Ne.symm hkind]
    · obtain ⟨vs, ⟨hvisited, hevent, hrelay⟩, hhandlers, houtcomes⟩ := ih c
      have hrun : run e c ((k, h) :: hs) =
          ⟨(k, h) :: (run e c hs).handlers, (run e c hs).context, (run e c hs).outcomes⟩ := by
        simp only [run, hk, if_false]
      rw [hrun]
      refine ⟨vs, ⟨?_, hevent, hrelay⟩, ?_, houtcomes⟩
      · rw [ofKind_cons, if_neg hk]
        exact hvisited
      · funext kind
        have hrest := congrFun hhandlers kind
        simp only [visited] at hrest ⊢
        rw [ofKind_cons, ofKind_cons, hrest]
        by_cases hkind : kind = e.kind
        · simp [hkind, hk]
        · simp [hkind]

/-- Of a list of outcomes, each is a success or a failure. -/
private theorem ofOutcomes_eq (os : List Outcome) :
    (Report.ofOutcomes os).delivered = os.countP (· = .done) ∧
      (Report.ofOutcomes os).failed = os.countP (· ≠ .done) := by
  induction os with
  | nil => exact ⟨rfl, rfl⟩
  | cons o os ih =>
    obtain ⟨hdelivered, hfailed⟩ := ih
    simp only [Report.ofOutcomes] at hdelivered hfailed ⊢
    rw [List.countP_cons, List.countP_cons, ← hdelivered, ← hfailed, List.count_cons,
      List.count_cons, List.count_cons]
    cases o
    · exact ⟨rfl, rfl⟩
    · exact ⟨rfl, Nat.add_right_comm ..⟩
    · exact ⟨rfl, rfl⟩

/-! ## Histories -/

/-- Something that is done with a dispatcher. -/
inductive Use (μ γ : Type) where
  /-- A handler is registered for a kind. -/
  | on (kind : EventKind) (h : Handler μ γ)
  /-- An event is dispatched on a context. -/
  | dispatch (c : γ) (e : Inbound)

/-- The dispatcher after something was done with it. -/
def use (d : Dispatcher μ γ) : Use μ γ → Dispatcher μ γ
  | .on kind h => d.on kind h
  | .dispatch c e => (d.dispatch c e).2.1

/-- The dispatcher after one thing after the other was done with it. -/
def useAll (d : Dispatcher μ γ) (us : List (Use μ γ)) : Dispatcher μ γ := us.foldl use d

/-- The handler that is registered for a kind, if one is. -/
def Use.registers? (kind : EventKind) : Use μ γ → Option (Handler μ γ)
  | .on k h => if k = kind then some h else none
  | .dispatch _ _ => none

/-- The handlers that are registered for a kind in a history, as they are at first. -/
def registered (kind : EventKind) (us : List (Use μ γ)) : List (Handler μ γ) :=
  us.filterMap (Use.registers? kind)

/-- What becomes of the handlers for each kind in a history: those that are registered come after
the others, and those that are visited are as their visits leave them. -/
inductive Becomes : (EventKind → List (Handler μ γ)) → List (Use μ γ) →
    (EventKind → List (Handler μ γ)) → Prop
  | nil {hs} : Becomes hs [] hs
  | on {hs hs' us} (kind : EventKind) (h : Handler μ γ)
      (rest : Becomes (fun k => if k = kind then hs k ++ [h] else hs k) us hs') :
      Becomes hs (.on kind h :: us) hs'
  | dispatch {hs hs' us c e vs d} (visits : Visits hs c e vs d)
      (rest : Becomes (visited hs e.kind vs) us hs') : Becomes hs (.dispatch c e :: us) hs'

/-- So it is for every history. -/
theorem becomes_useAll (d : Dispatcher μ γ) (us : List (Use μ γ)) :
    Becomes d.handlersFor us (d.useAll us).handlersFor := by
  induction us generalizing d with
  | nil => exact .nil
  | cons u us ih =>
    have hrest := ih (d.use u)
    cases u with
    | on kind h =>
      rw [use, funext (handlersFor_on d kind · h)] at hrest
      exact .on kind h hrest
    | dispatch c e =>
      obtain ⟨vs, hvisits, hhandlers, -⟩ := run_visits e c d.handlers
      have hafter : (d.use (.dispatch c e)).handlersFor = visited d.handlersFor e.kind vs :=
        hhandlers
      rw [hafter] at hrest
      exact .dispatch hvisits hrest

/-- Whatever the handlers come to remember, they are those that were registered. -/
private theorem Becomes.act_eq {hs hs' : EventKind → List (Handler μ γ)} {us : List (Use μ γ)}
    (h : Becomes hs us hs') (kind : EventKind) :
    (hs' kind).map Handler.act = (hs kind ++ registered kind us).map Handler.act := by
  induction h with
  | nil => simp [registered]
  | on k handler _ ih =>
    rw [ih]
    by_cases hk : k = kind
    · simp [registered, Use.registers?, hk]
    · simp [registered, Use.registers?, hk, Ne.symm hk]
  | @dispatch hs _ us c e vs d visits _ ih =>
    have hact : (visited hs e.kind vs kind).map Handler.act = (hs kind).map Handler.act := by
      unfold visited
      split
      · next hk =>
        rw [hk, ← visits.visited, List.map_map, List.map_map]
        rfl
      · rfl
    have hnone : registered kind (.dispatch c e :: us) = registered kind us := rfl
    rw [ih, hnone, List.map_append, List.map_append, hact]

/-- After any history, to dispatch an event is to visit the handlers that were registered for its
kind by then, each once, in the order of their registration, and on the context that its predecessor
left, whether or not any of them fails. All others stay as they are, and the report counts how the
visits ended. -/
theorem dispatch_of_history (us : List (Use μ γ)) (c : γ) (e : Inbound) :
    let d : Dispatcher μ γ := useAll {} us
    let (report, later, left) := d.dispatch c e
    Becomes (fun _ => []) us d.handlersFor ∧
      (∀ kind, (d.handlersFor kind).map Handler.act = (registered kind us).map Handler.act) ∧
      (∃ vs, Visits d.handlersFor c e vs left ∧
        later.handlersFor = visited d.handlersFor e.kind vs ∧
        report.delivered = vs.countP (fun v => v.outcome = .done) ∧
        report.failed = vs.countP (fun v => v.outcome ≠ .done)) ∧
      report.delivered + report.failed = d.count e.kind ∧
      (report.isUnhandled = true ↔ registered e.kind us = []) ∧
      ∀ kind, d.count kind = (registered kind us).length ∧ later.count kind = d.count kind := by
  intro d
  have hbecomes : Becomes (fun _ => []) us d.handlersFor := becomes_useAll {} us
  have hact (kind : EventKind) :
      (d.handlersFor kind).map Handler.act = (registered kind us).map Handler.act :=
    hbecomes.act_eq kind
  have hcount (kind : EventKind) : d.count kind = (registered kind us).length := by
    rw [count_eq, ← List.length_map, hact, List.length_map]
  obtain ⟨vs, hvisits, hlater, houtcomes⟩ := run_visits e c d.handlers
  have hreport : (d.dispatch c e).1 = Report.ofOutcomes (vs.map Visit.outcome) := by
    rw [← houtcomes]
    rfl
  have hdelivered : (d.dispatch c e).1.delivered = vs.countP (fun v => v.outcome = .done) := by
    rw [hreport, (ofOutcomes_eq _).1, List.countP_map]
    rfl
  have hfailed : (d.dispatch c e).1.failed = vs.countP (fun v => v.outcome ≠ .done) := by
    rw [hreport, (ofOutcomes_eq _).2, List.countP_map]
    rfl
  have hall : vs.length = d.count e.kind := by
    rw [count_eq, ← List.length_map Visit.handler, hvisits.visited]
    rfl
  have hsum : (d.dispatch c e).1.delivered + (d.dispatch c e).1.failed = d.count e.kind := by
    rw [← hall, List.length_eq_countP_add_countP (fun v => v.outcome = .done), hdelivered, hfailed]
    simp
  have hunhandled : (d.dispatch c e).1.isUnhandled = true ↔ registered e.kind us = [] := by
    rw [← List.length_eq_zero_iff, ← hcount, ← hsum, Nat.add_eq_zero_iff, Report.isUnhandled,
      Bool.and_eq_true, beq_iff_eq, beq_iff_eq]
  exact ⟨hbecomes, hact, ⟨vs, hvisits, hlater, hdelivered, hfailed⟩, hsum, hunhandled, fun kind =>
    ⟨hcount kind, count_dispatch d c e kind⟩⟩

end Dispatcher
end TermSync.Session

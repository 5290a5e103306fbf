import TermSync.Wire.Inbound

/-!
# Dispatch

Handlers are registered for a kind of event. An event is given to the handlers of its kind, one
after the other in the order of their registration, and each works on the context that its
predecessor left. A handler that fails or breaks off keeps none of the others from running, and what
it had changed before stays changed. Main laws: `run_append`, `run_onAll`, `outcomes_length`,
`count_dispatch`.
-/

namespace TermSync.Session

open Wire (EventKind Inbound)

/-- How a handler ended. -/
inductive Outcome where
  | done
  /-- It returned an error. -/
  | failed
  /-- It broke off. -/
  | panicked
deriving DecidableEq, Repr

/-- A handler of a context `γ`. It may remember something of type `μ` from call to call. -/
structure Handler (μ γ : Type) where
  memory : μ
  act : μ → γ → Inbound → μ × γ × Outcome

/-- How many handlers of an event ended well, and how many failed in one way or the other. -/
structure Report where
  delivered : Nat := 0
  failed : Nat := 0
deriving DecidableEq, Repr

namespace Report

/-- Whether there was no handler. -/
def isUnhandled (r : Report) : Bool := r.delivered == 0 && r.failed == 0

/-- The report on a list of outcomes. -/
def ofOutcomes (os : List Outcome) : Report where
  delivered := os.count .done
  failed := os.count .failed + os.count .panicked

end Report

/-- Handlers with their kinds of events, in the order of their registration. -/
structure Dispatcher (μ γ : Type) where
  handlers : List (EventKind × Handler μ γ) := []

namespace Dispatcher

variable {μ γ : Type}

/-- Register a handler, after all others. -/
def on (d : Dispatcher μ γ) (kind : EventKind) (h : Handler μ γ) : Dispatcher μ γ where
  handlers := d.handlers ++ [(kind, h)]

/-- Register a handler for every kind. -/
def onAll (d : Dispatcher μ γ) (h : Handler μ γ) : Dispatcher μ γ :=
  EventKind.all.foldl (fun d kind => d.on kind h) d

/-- The number of handlers for a kind. -/
def count (d : Dispatcher μ γ) (kind : EventKind) : Nat := d.handlers.countP fun h => h.1 = kind

/-- What a dispatch leaves. -/
structure Result (μ γ : Type) where
  handlers : List (EventKind × Handler μ γ)
  context : γ
  outcomes : List Outcome

/-- Give an event to the handlers of its kind. -/
def run (e : Inbound) (c : γ) : List (EventKind × Handler μ γ) → Result μ γ
  | [] => ⟨[], c, []⟩
  | (kind, h) :: hs =>
    if kind = e.kind then
      let (memory, c, outcome) := h.act h.memory c e
      let r := run e c hs
      ⟨(kind, { h with memory }) :: r.handlers, r.context, outcome :: r.outcomes⟩
    else
      let r := run e c hs
      ⟨(kind, h) :: r.handlers, r.context, r.outcomes⟩

/-- Give an event to the handlers of its kind, and count how they ended. -/
def dispatch (d : Dispatcher μ γ) (c : γ) (e : Inbound) : Report × Dispatcher μ γ × γ :=
  let r := run e c d.handlers
  (Report.ofOutcomes r.outcomes, ⟨r.handlers⟩, r.context)

/-- Handlers that were registered later go on from what the earlier ones have come to. -/
theorem run_append (e : Inbound) (hs ks : List (EventKind × Handler μ γ)) (c : γ) :
    run e c (hs ++ ks) =
      let r := run e c hs
      let q := run e r.context ks
      ⟨r.handlers ++ q.handlers, q.context, r.outcomes ++ q.outcomes⟩ := by
  induction hs generalizing c with
  | nil => rfl
  | cons h hs ih => by_cases hk : h.1 = e.kind <;> simp [run, hk, ih]

/-- A handler that is registered for every kind comes after all others, once for each kind. -/
theorem handlers_onAll (d : Dispatcher μ γ) (h : Handler μ γ) :
    (d.onAll h).handlers = d.handlers ++ EventKind.all.map fun kind => (kind, h) := by
  have hkinds (kinds : List EventKind) (d : Dispatcher μ γ) :
      (kinds.foldl (fun d kind => d.on kind h) d).handlers =
        d.handlers ++ kinds.map fun kind => (kind, h) := by
    induction kinds generalizing d with
    | nil => exact (List.append_nil _).symm
    | cons kind kinds ih =>
      rw [List.foldl_cons, ih, on, List.append_assoc]
      rfl
  exact hkinds EventKind.all d

/-- A handler that is registered for every kind, and remembers nothing, is given an event once. -/
theorem run_onAll (h : Handler Unit γ) (e : Inbound) (c : γ) :
    run e c (onAll {} h).handlers =
      { handlers := (onAll {} h).handlers
        context := (h.act () c e).2.1
        outcomes := [(h.act () c e).2.2] } := by
  have hall : (onAll {} h).handlers = EventKind.all.map fun kind => (kind, h) :=
    handlers_onAll {} h
  rw [hall]
  cases hk : e.kind <;> simp [run, hk, EventKind.all]

/-- As many handlers run as are registered for the event's kind. -/
theorem outcomes_length (e : Inbound) (hs : List (EventKind × Handler μ γ)) (c : γ) :
    (run e c hs).outcomes.length = hs.countP fun h => h.1 = e.kind := by
  induction hs generalizing c with
  | nil => rfl
  | cons h hs ih =>
    by_cases hk : h.1 = e.kind <;> simp [run, hk, ih]

/-- Handlers keep their places and their kinds. -/
theorem run_kinds (e : Inbound) (hs : List (EventKind × Handler μ γ)) (c : γ) :
    (run e c hs).handlers.map Prod.fst = hs.map Prod.fst := by
  induction hs generalizing c with
  | nil => rfl
  | cons h hs ih => by_cases hk : h.1 = e.kind <;> simp [run, hk, ih]

/-- A dispatch registers and removes nothing. -/
theorem count_dispatch (d : Dispatcher μ γ) (c : γ) (e : Inbound) (kind : EventKind) :
    (d.dispatch c e).2.1.count kind = d.count kind := by
  have h : ∀ hs : List (EventKind × Handler μ γ),
      hs.countP (fun h => h.1 = kind) = (hs.map Prod.fst).countP (· = kind) := by
    intro hs
    simp [List.countP_map, Function.comp_def]
  simp only [count, dispatch, h, run_kinds]

end Dispatcher
end TermSync.Session

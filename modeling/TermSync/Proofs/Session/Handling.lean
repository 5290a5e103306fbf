import TermSync.Proofs.Session.Focus
import TermSync.Proofs.Session.Refusal

/-!
# Handling never fails

An instance is selected on behalf of the backend only when it is there: it was announced just now,
it is the first in display order, or it was found among the instances. And the session is alive, for
after its end nothing is handled. So what is prepared for the case that such a selection is refused
never happens.

Main statements: `attempt_select` and `attempt_ensureShown` (selections are not refused),
`outcome_apply` (what the backend tells can be done) and `handled_of_run`.
-/

namespace TermSync.Session

open Rest (SessionRecord)
open Roster (Record)
open Wire (Inbound)

namespace State

variable {s : State}

/-! ## Selections -/

/-- To attempt what is not refused is to do it. -/
private theorem attempt_eq_orStay {t : Step} {f : State → Except Failure Step} {u : Step}
    (h : f t.state = .ok u) : t.attempt f = .ok (t.orStay f) := by
  unfold Step.orStay Step.attempt
  rw [h]

/-- A session that is alive is not refused an instance that is there. -/
theorem attempt_select {t : Step} (ha : t.state.isAlive = true) {name : String}
    (hc : t.state.roster.contains name = true) :
    t.attempt (fun s => s.select name) = .ok (t.orStay fun s => s.select name) := by
  obtain ⟨i, hi⟩ := Option.isSome_iff_exists.mp hc
  exact attempt_eq_orStay (select_eq_ok ha hi)

/-- Whatever has to be shown can be. -/
theorem attempt_ensureShown {t : Step} (h : t.state.Coherent) (ha : t.state.isAlive = true) :
    t.attempt ensureShown = .ok (t.orStay ensureShown) := by
  cases hu : t.state.unshown? with
  | none => exact attempt_eq_orStay (by rw [ensureShown, hu])
  | some i =>
    have hsel := select_eq_ok ha (get?_of_unshown? h hu)
    exact attempt_eq_orStay (by rw [ensureShown, hu]; exact hsel)

private theorem contains_upsert (r : Roster) (record : Record) :
    (r.upsert record).contains record.name = true := by
  rw [Roster.contains_eq, Roster.get?_upsert_self]
  rfl

/-! ## What the backend tells -/

private theorem outcome_learn (ha : s.isAlive = true) (record : Record) :
    (s.learn record).2 = .done := by
  obtain ⟨i, hi⟩ := Option.isSome_iff_exists.mp (contains_upsert s.roster record)
  have hsel := select_eq_ok (s := { s with roster := s.roster.upsert record }) ha hi
  unfold learn
  dsimp only
  rw [hsel]
  split <;> rfl

private theorem outcome_lose (h : s.Coherent) (ha : s.isAlive = true) (name : String) :
    (s.lose name).2 = .done := by
  have hgone : (s.forget name).state.Coherent := h.perform (.forget name)
  unfold lose
  dsimp only
  rw [attempt_ensureShown hgone ((isAlive_forget s name).trans ha)]

/-- While the session is alive, all that the backend tells can be done. -/
theorem outcome_apply (h : s.Coherent) (ha : s.isAlive = true) (e : Inbound) :
    (s.apply e).2 = .done := by
  cases e with
  | instanceNew record => exact outcome_learn ha record
  | instanceDelete name => exact outcome_lose h ha name
  | _ => rfl

/-- Without observers, an engine does what the session does and reports nothing else. -/
private theorem receive_eq {ω : Type} (g : Engine ω) (hg : g.dispatcher = Engine.registered)
    (e : Inbound) (ha : g.state.isAlive = true) :
    g.receive e =
      (Report.ofOutcomes [(g.state.apply e).2],
        { engine := { g with state := (g.state.apply e).1.state }
          effects := (g.state.apply e).1.effects }) := by
  obtain ⟨state, shared, dispatcher⟩ := g
  obtain rfl : dispatcher = Engine.registered := hg
  unfold Engine.receive
  rw [if_pos (show Engine.isAlive _ = true from ha)]
  simp only [Dispatcher.dispatch, Engine.run_registered]
  rfl

/-- In every run, whatever the backend tells, an engine without observers reports that one handler
has done its work and none has failed, or that there was none if the session has ended; and it has
no observers then. As long as the session is alive, the selections that belong to loading and to
the answers to requests are not refused. -/
theorem handled_of_run (id : String) (setup : Setup) (xs : List Stimulus) :
    let s := ((initial id setup).run xs).state
    (∀ (ω : Type) (g : Engine ω) (e : Inbound), g.state = s → g.dispatcher = Engine.registered →
      (g.receive e).1 =
          (if s.isAlive then { delivered := 1, failed := 0 } else { delivered := 0, failed := 0 }) ∧
        (g.receive e).2.engine.state = (s.respond (.inbound e)).state ∧
        (g.receive e).2.engine.dispatcher = Engine.registered) ∧
      (s.isAlive = true →
        (∀ r : SessionRecord, ∃ t, s.bootstrap (.ok r) = .ok t ∧
          (Work.bootstrap (.ok r)).on s = (.ok (), t)) ∧
        (∀ (key : String) (r : Record),
          let t := (s.forget key).andThen fun s =>
            { state := { s with roster := s.roster.upsert r } }
          t.attempt (fun s => s.select r.name) =
            .ok (s.respond (.event (.created key (.ok r))))) ∧
        (∀ (key : String) (f : Failure),
          let t := (s.forget key).andThen fun s => s.tell (.ofFailure "create" f)
          t.attempt ensureShown = .ok (s.respond (.event (.created key (.error f))))) ∧
        ∀ name : String,
          (s.forget name).attempt ensureShown =
            .ok (s.respond (.event (.deleted name (.ok ()))))) := by
  intro s
  have h : s.Coherent := coherent_run id setup xs
  constructor
  · intro ω g e hstate hg
    cases ha : s.isAlive with
    | false =>
      have hend : g.receive e = ({}, { engine := g }) := by
        unfold Engine.receive
        rw [if_neg (by rw [Engine.isAlive, hstate, ha]; decide)]
      rw [hend, respond, ha]
      exact ⟨rfl, hstate, hg⟩
    | true =>
      rw [receive_eq g hg e (by rw [hstate, ha]), hstate, outcome_apply h ha, respond, if_pos ha]
      exact ⟨rfl, rfl, hg⟩
  · intro ha
    have hcoherent (name : String) : (s.forget name).state.Coherent := h.perform (.forget name)
    have halive (name : String) : (s.forget name).state.isAlive = true :=
      (isAlive_forget s name).trans ha
    refine ⟨fun r => ?_, fun key r => ?_, fun key f => ?_, fun name => ?_⟩
    · have hload : s.bootstrap (.ok r) = .ok (s.performAll (s.loadActs r)) := by
        rw [bootstrap, if_pos ha]
        exact load_eq h.roster ha r
      refine ⟨_, hload, ?_⟩
      rw [on_bootstrap h.roster, hload]
    · rw [respond, handle, finishCreate, if_pos ha]
      refine attempt_select ?_ (contains_upsert (s.forget key).state.roster r)
      exact halive key
    · rw [respond, handle, finishCreate, if_pos ha]
      exact attempt_ensureShown (hcoherent key) (halive key)
    · rw [respond, handle, finishDelete, if_pos ha]
      exact attempt_ensureShown (hcoherent name) (halive name)

/-- The selected instance is deleted, and another one is selected in its place. -/
theorem handled_deletion_of_selected :
    let xs : List Stimulus :=
      [.inbound (.instanceNew (.named "a")), .inbound (.instanceNew (.named "b"))]
    let s := ((initial "s1" {}).run xs).state
    let g : Engine Unit := { state := s, shared := () }
    g.dispatcher = Engine.registered ∧ s.isAlive = true ∧ s.roster.selected = some "a" ∧
      (g.receive (.instanceDelete "a")).1 = { delivered := 1, failed := 0 } ∧
      (g.receive (.instanceDelete "a")).2.engine.state.roster.selected = some "b" ∧
      (s.forget "a").attempt ensureShown =
        .ok (s.respond (.event (.deleted "a" (.ok ())))) := by
  intro xs s g
  have ha : s.isAlive = true := by decide +kernel
  have hnone : g.dispatcher = Engine.registered := rfl
  obtain ⟨hreceive, hselect⟩ := handled_of_run "s1" {} xs
  obtain ⟨hreport, -, -⟩ := hreceive Unit g (.instanceDelete "a") rfl hnone
  rw [show ((initial "s1" {}).run xs).state = s from rfl, ha] at hreport
  exact ⟨hnone, ha, by decide +kernel, hreport, by decide +kernel, (hselect ha).2.2.2 "a"⟩

end State
end TermSync.Session

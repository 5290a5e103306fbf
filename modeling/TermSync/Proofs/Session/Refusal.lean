import TermSync.Proofs.Session.Coherence

/-!
# Refusals

A command is refused if the session has ended, if it needs an instance that is not there, or if it
brings input for an instance without a widget. Loading is refused if the session has ended or the
backend's answer is a failure; that the first instance cannot be shown would be found out too late,
but as long as the instances in display order are all there, this does not happen. So whatever is
refused has left everything as it was.

Main statements: `execute_eq_error_iff` (why commands are refused) and `refused_run`.
-/

namespace TermSync.Session

open Rest (SessionRecord)

/-- The instance that a command cannot do without. -/
def Command.needs? : Command → Option String
  | .delete name | .select name | .input name _ => some name
  | _ => none

namespace State

variable {s : State}

/-- Why a session refuses a command: it has ended, the instance is not there, or it has no widget
to be typed into. -/
inductive Refuses (s : State) (c : Command) : Failure → Prop
  | terminated (ha : s.isAlive = false) : s.Refuses c .terminated
  | unknown {name : String} (ha : s.isAlive = true) (hc : c.needs? = some name)
      (hn : s.roster.contains name = false) : s.Refuses c (.unknownInstance name)
  | detached {name : String} {data : Text.Bytes} {i : Roster.Instance} (ha : s.isAlive = true)
      (hc : c = .input name data) (hi : s.roster.get? name = some i)
      (hw : i.screen.isAttached = false) : s.Refuses c (.detached name)

/-- What a session has a reason to refuse, it refuses for this reason. -/
private theorem execute_of_refuses {c : Command} {f : Failure} (h : s.Refuses c f) (key : String) :
    s.execute key c = .error f := by
  cases h with
  | terminated ha => simp [execute, ha]
  | unknown ha hc hn =>
    have hi := Roster.contains_eq_false_iff.mp hn
    cases c <;> cases hc
    · simp [execute, ha, hn]
    · simp [execute, select, ha, hi]
    · simp [execute, ha, hi]
  | detached ha hc hi hw =>
    subst hc
    simp [execute, ha, hi, hw]

/-- Commands are refused for these reasons only. -/
theorem execute_eq_error_iff (s : State) (key : String) (c : Command) (f : Failure) :
    s.execute key c = .error f ↔ s.Refuses c f := by
  refine ⟨fun h => ?_, fun h => execute_of_refuses h key⟩
  have hreason {g : Failure} (hg : s.Refuses c g) : s.Refuses c f := by
    rw [execute_of_refuses hg key] at h
    cases h
    exact hg
  cases ha : s.isAlive with
  | false => exact hreason (.terminated ha)
  | true =>
    have hunknown {name : String} (hc : c.needs? = some name) (hi : s.roster.get? name = none) :
        s.Refuses c f := hreason (.unknown ha hc (Roster.contains_eq_false_iff.mpr hi))
    cases c with
    | delete name =>
      cases hi : s.roster.get? name with
      | none => exact hunknown rfl hi
      | some i => simp [execute, ha, Roster.contains_of_get? hi] at h
    | select name =>
      cases hi : s.roster.get? name with
      | none => exact hunknown rfl hi
      | some i => simp [execute, select, ha, hi] at h
    | input name data =>
      cases hi : s.roster.get? name with
      | none => exact hunknown rfl hi
      | some i =>
        cases hw : i.screen.isAttached with
        | true => simp [execute, ha, hi, hw] at h
        | false => exact hreason (.detached ha rfl hi hw)
    | _ => simp [execute, ha] at h

/-- As long as the instances in display order are there, loading is refused before anything is taken
over, or not at all. -/
theorem on_bootstrap {s : State} (h : s.roster.Consistent)
    (answer : Except Failure SessionRecord) :
    (Work.bootstrap answer).on s =
      match s.bootstrap answer with
      | .ok t => (.ok (), t)
      | .error e => (.error e, { state := s }) := by
  rw [Work.on, Work.go_bootstrap]
  unfold bootstrap
  cases ha : s.isAlive with
  | false => rfl
  | true =>
    cases answer with
    | error e => rfl
    | ok r =>
      simp only [if_true, Work.go_load, load_eq h ha]
      rfl

/-- That an instance in display order is not there would be found out too late. -/
example :
    let s : State := { initial "s1" {} with roster := { order := ["a"] } }
    let (result, t) := (Work.bootstrap (.ok { ready := some false })).on s
    result = .error (.unknownInstance "a") ∧ t.state.lifecycle.ready = false := by
  exact ⟨rfl, rfl⟩

/-- Loading is refused if the session has ended or the backend's answer is a failure. -/
theorem bootstrap_eq_error_iff {s : State} (h : s.roster.Consistent)
    (answer : Except Failure SessionRecord) (f : Failure) :
    s.bootstrap answer = .error f ↔
      s.isAlive = false ∧ f = .terminated ∨ s.isAlive = true ∧ answer = .error f := by
  unfold bootstrap
  cases ha : s.isAlive with
  | false => simp [eq_comm]
  | true =>
    cases answer with
    | error e => simp
    | ok r => simp [load_eq h ha]

/-- In every state that a run reaches, the session refuses a command for one of these reasons, and
to be loaded if it has ended or the backend's answer is a failure. All else is done; and whatever is
refused has changed nothing and had no effect. -/
theorem refused_run (id : String) (setup : Setup) (xs : List Stimulus) :
    let s := ((initial id setup).run xs).state
    (∀ key c,
      let (result, t) := (Work.execute key c).on s
      (∀ f, result = .error f ↔ s.Refuses c f) ∧ (result = .ok () ∨ t = { state := s })) ∧
    ∀ answer,
      let (result, t) := (Work.bootstrap answer).on s
      (∀ f, result = .error f ↔
        s.isAlive = false ∧ f = .terminated ∨ s.isAlive = true ∧ answer = .error f) ∧
      (result = .ok () ∨ t = { state := s }) := by
  intro s
  have hs : s.Coherent := coherent_run id setup xs
  constructor
  · intro key c
    have hrefused := execute_eq_error_iff s key c
    rw [Work.on_execute]
    cases he : s.execute key c with
    | ok t => simpa [he] using hrefused
    | error e => simpa [he] using hrefused
  · intro answer
    have hrefused := bootstrap_eq_error_iff hs.roster answer
    rw [on_bootstrap hs.roster]
    cases he : s.bootstrap answer with
    | ok t => simpa [he] using hrefused
    | error e => simpa [he] using hrefused

end State
end TermSync.Session

import TermSync.Session.Work

/-!
# What work comes to

To select an instance or to carry out a command comes to what `State.select` and `State.execute`
say; if it is refused, nothing was changed or done by then. The session is loaded as `State.load`
says; but if that should be refused, a part of it was done.

Main statements: `go_select`, `go_execute` and `go_load`.
-/

namespace TermSync.Session.Work

open Rest (SessionRecord)

/-- What work comes to that is done as a whole or not at all. -/
def settled (r : Except Failure Step) (t : Step) : Except Failure Unit × Step :=
  match r with
  | .ok u => (.ok (), t.andThen fun _ => u)
  | .error e => (.error e, t)

/-! ## Commands -/

/-- An instance can be selected if it is there. -/
private theorem select?_eq (r : Roster) (name : String) :
    r.select? name = (r.get? name).map fun _ => { r with selected := some name } := by
  have hc : r.contains name = (r.get? name).isSome := rfl
  rw [Roster.select?, hc]
  cases r.get? name <;> rfl

/-- It makes no difference to the display of an instance whether that is selected already. -/
private theorem display_selected (s : State) (name : String) (i : Roster.Instance) :
    State.display { s with roster := { s.roster with selected := some name } } name i =
      s.display name i := rfl

/-- To select an instance is refused before the selection moves, or not at all. -/
theorem go_select (name : String) (t : Step) :
    (select name).go t = settled (t.state.select name) t := by
  simp only [select, go_bind, go_ensureAlive, State.select]
  cases t.state.isAlive with
  | false => rfl
  | true =>
    simp only [if_true, go_state, go_need, select?_eq]
    cases hi : t.state.roster.get? name with
    | none => rfl
    | some i =>
      have hthere : Roster.get? { t.state.roster with selected := some name } name = some i := hi
      simp only [Option.map_some, go_change, Step.andThen, hthere, go_step, display_selected,
        settled, List.append_nil]

/-- A command is refused before anything is changed or done, or not at all. -/
theorem go_execute (key : String) (c : Command) (t : Step) :
    (execute key c).go t = settled (t.state.execute key c) t := by
  simp only [execute, go_bind, go_ensureAlive, State.execute]
  cases t.state.isAlive with
  | false => rfl
  | true =>
    cases c with
    | create request => simp [go_bind, settled, Step.andThen]
    | delete name =>
      cases hc : t.state.roster.contains name <;> simp [go_bind, hc, settled, Step.andThen]
    | select name => exact go_select name t
    | input name data =>
      cases hi : t.state.roster.get? name with
      | none => simp [go_bind, hi, settled]
      | some i =>
        cases hw : i.screen.isAttached <;> simp [go_bind, hi, hw, settled, Step.andThen]
    | resize g => rfl
    | fit => rfl
    | close => rfl

/-- So it is for a command by itself. -/
theorem on_execute (key : String) (c : Command) (s : State) :
    (execute key c).on s =
      match s.execute key c with
      | .ok t => (.ok (), t)
      | .error e => (.error e, { state := s }) := by
  rw [on, go_execute]
  cases s.execute key c <;> rfl

/-! ## Loading -/

/-- The state in which the session is described, and no instance is shown yet. -/
def loaded (r : SessionRecord) (s : State) : State :=
  { s with
    lifecycle :=
      { s.lifecycle with
        createdAt := r.createdAt
        expiresAt := r.expiresAt
        ready := r.ready.getD true }
    roster := r.instances.foldl (fun roster entry => roster.upsert entry.2) s.roster }

private theorem go_upserts (entries : List (String × Roster.Record)) (t : Step) :
    (forIn entries PUnit.unit fun entry _ => do
        change fun s => { s with roster := s.roster.upsert entry.2 }
        pure (ForInStep.yield PUnit.unit) : Work PUnit).go t =
      (.ok (), t.andThen fun s =>
        let roster := entries.foldl (fun roster entry => roster.upsert entry.2) s.roster
        { state := { s with roster } }) := by
  induction entries generalizing t with
  | nil => simp [Step.andThen]
  | cons entry entries ih =>
    simp only [List.forIn_cons, go_bind, go_change, go_pure, ih, Step.andThen_assoc,
      List.foldl_cons]
    rfl

/-- Whether the first instance is shown is decided where none is selected. -/
private theorem go_showFirst (t : Step) :
    showFirst.go t =
      match t.state.roster.selected, t.state.roster.names.head? with
      | none, some name => settled (t.state.select name) t
      | _, _ => (.ok (), t) := by
  simp only [showFirst, go_bind, go_state]
  cases t.state.roster.selected with
  | some name => rfl
  | none =>
    cases t.state.roster.names.head? with
    | none => rfl
    | some name => exact go_select name t

/-- Once the session is described, the first instance is shown if none is selected. -/
private theorem load_eq_loaded (r : SessionRecord) (s : State) :
    s.load r =
      match
        match (loaded r s).roster.selected, (loaded r s).roster.names.head? with
        | none, some name => Step.attempt { state := loaded r s } fun s => s.select name
        | _, _ => .ok { state := loaded r s } with
      | .ok t => .ok (t.andThen fun s => { state := s.startCountdown })
      | .error e => .error e := rfl

/-- If the first instance cannot be shown, the session has been described by then. -/
theorem go_load (r : SessionRecord) (t : Step) :
    (load r).go t =
      match t.state.load r with
      | .ok u => (.ok (), t.andThen fun _ => u)
      | .error e => (.error e, t.andThen fun s => { state := loaded r s }) := by
  let u := t.andThen fun s => { state := loaded r s }
  have hu : u.state = loaded r t.state := rfl
  have hload : (load r).go t = (showFirst >>= fun _ => change State.startCountdown).go u := by
    simp only [load, go_bind, go_change, go_upserts, Step.andThen_assoc]
    rfl
  rw [hload, go_bind, go_showFirst, hu, load_eq_loaded]
  cases (loaded r t.state).roster.selected with
  | some name => simp [u, Step.andThen]
  | none =>
    cases (loaded r t.state).roster.names.head? with
    | none => simp [u, Step.andThen]
    | some name =>
      simp only [Step.attempt]
      cases (loaded r t.state).select name with
      | ok v => simp [settled, u, Step.andThen]
      | error e => rfl

theorem go_bootstrap (answer : Except Failure SessionRecord) (t : Step) :
    (bootstrap answer).go t =
      if t.state.isAlive then
        match answer with
        | .ok r => (load r).go t
        | .error e => (.error e, t)
      else (.error .terminated, t) := by
  simp only [bootstrap, go_bind, go_ensureAlive]
  cases t.state.isAlive with
  | false => rfl
  | true => cases answer <;> rfl

/-- A session that is loaded is loaded as `State.bootstrap` says. -/
theorem bootstrap_eq_ok {answer : Except Failure SessionRecord} {s : State} {t : Step}
    (h : (bootstrap answer).on s = (.ok (), t)) : s.bootstrap answer = .ok t := by
  rw [on, go_bootstrap] at h
  unfold State.bootstrap
  cases ha : s.isAlive with
  | false => simp [ha] at h
  | true =>
    cases answer with
    | error e => simp [ha] at h
    | ok r =>
      simp only [ha, if_true, go_load] at h ⊢
      cases hl : s.load r with
      | error e => simp [hl] at h
      | ok u =>
        rw [hl] at h
        exact congrArg Except.ok (Prod.mk.inj h).2

end TermSync.Session.Work

import TermSync.Proofs.Session.Lifetime

/-!
# What instances hold

An instance holds its screen and the input typed into it; records, reports and the passing of time
touch neither. A name without an instance holds nothing, and an instance that comes in begins with
that.

Main statements: `held_of_lasting` and `held_perform` (what most acts leave alone).
-/

namespace TermSync.Session

open Roster (Instance Record)

variable {α : Type}

/-- Something that an instance holds: it begins with nothing, and is touched by no record and no
report. -/
structure Lasting (f : Instance → α) (nothing : α) : Prop where
  ofRecord : ∀ r, f (.ofRecord r) = nothing
  merge : ∀ i r, f (i.merge r) = f i
  provisional : ∀ i, f { i with provisional := true } = f i
  note : ∀ (n : News) i, f (n.applyTo i) = f i

/-- Something that an instance holds, and that no passing of time touches either. -/
structure Holding (f : Instance → α) (nothing : α) : Prop extends Lasting f nothing where
  moveTo : ∀ i moment, f (i.moveTo moment) = f i

/-- Whether an act leaves alone what the instances hold that stay. -/
def Act.spares : Act → Bool
  | .learn _ | .expect _ | .forget _ | .note _ _ | .moveTo _ | .aside _ => true
  | .display _ | .route _ _ | .resizeAll _ | .type _ _ | .flush _ | .terminate => false

namespace State

/-- What the instance with a name holds, or nothing if there is none. -/
def held (f : Instance → α) (nothing : α) (s : State) (name : String) : α :=
  ((s.roster.get? name).map f).getD nothing

variable {f : Instance → α} {nothing : α}

theorem held_of_get? {s : State} {name : String} {i : Instance}
    (h : s.roster.get? name = some i) : s.held f nothing name = f i := by
  rw [held, h]
  rfl

theorem held_of_eq {s t : State} {name : String} (h : t.roster.get? name = s.roster.get? name) :
    t.held f nothing name = s.held f nothing name := by
  rw [held, h, held]

/-- A change of one instance changes what that one holds. -/
theorem held_update (s : State) (n name : String) (g : Instance → Instance)
    (hg : ∀ i, s.roster.get? n = some i → f (g i) = f i) :
    (s.update n g).held f nothing name = s.held f nothing name := by
  unfold held
  rw [update, Roster.get?_update]
  split
  · next hn =>
    subst hn
    cases hi : s.roster.get? name with
    | none => rfl
    | some i => simp [hg i hi]
  · rfl

private theorem held_learned (hf : Lasting f nothing) (r : Roster) (record : Record) :
    f (r.learned record) = ((r.get? record.name).map f).getD nothing := by
  unfold Roster.learned
  cases r.get? record.name with
  | none => exact hf.ofRecord record
  | some i => exact hf.merge i record

private theorem held_learn (hf : Lasting f nothing) (s : State) (record : Record)
    (name : String) :
    (s.perform (.learn record)).state.held f nothing name = s.held f nothing name := by
  unfold held
  rw [perform, Roster.get?_upsert]
  split
  · next hn =>
    rw [hn]
    exact held_learned hf s.roster record
  · rfl

private theorem held_expect (hf : Lasting f nothing) (s : State) (key name : String) :
    (s.perform (.expect key)).state.held f nothing name = s.held f nothing name := by
  unfold held
  rw [perform, Roster.get?_insertPlaceholder]
  split
  · next hn =>
    rw [hn]
    exact (hf.provisional _).trans (held_learned hf s.roster (Record.named key))
  · rfl

private theorem held_forget (s : State) {n name : String} (hne : n ≠ name) :
    (s.forget n).state.held f nothing name = s.held f nothing name :=
  held_of_eq (by rw [get?_forget, if_neg (Ne.symm hne)])

private theorem held_moveTo (hf : Holding f nothing) (s : State) (moment : Nat) (name : String) :
    (Loop.moveState moment s).held f nothing name = s.held f nothing name := by
  have hg := Roster.get?_moveTo s.roster moment name
  unfold held Loop.moveState
  simp only [hg]
  cases s.roster.get? name with
  | none => rfl
  | some i => exact hf.moveTo i moment

/-- What most acts leave alone, but perhaps for the passing of time. -/
theorem held_of_lasting (hf : Lasting f nothing) (s : State) {a : Act} (ha : a.spares = true)
    (hm : ∀ moment, a ≠ .moveTo moment) {name : String} (hr : a.removes name = false) :
    (s.perform a).state.held f nothing name = s.held f nothing name := by
  cases a with
  | learn record => exact held_learn hf s record name
  | expect key => exact held_expect hf s key name
  | forget n => exact held_forget s (by simpa [Act.removes] using hr)
  | note n news => exact held_update s n name _ fun i _ => hf.note news i
  | moveTo moment => exact absurd rfl (hm moment)
  | aside a =>
    refine held_of_eq ?_
    rw [perform, (performAside_apart s a).roster]
  | _ => cases ha

/-- What most acts leave alone. -/
theorem held_perform (hf : Holding f nothing) (s : State) {a : Act} (ha : a.spares = true)
    {name : String} (hr : a.removes name = false) :
    (s.perform a).state.held f nothing name = s.held f nothing name := by
  by_cases hm : ∃ moment, a = .moveTo moment
  · obtain ⟨moment, rfl⟩ := hm
    exact held_moveTo hf s moment name
  · exact held_of_lasting hf.toLasting s ha (fun moment he => hm ⟨moment, he⟩) hr

end State
end TermSync.Session

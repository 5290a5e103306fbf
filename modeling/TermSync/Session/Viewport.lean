import TermSync.Terminal.Geometry
import TermSync.Time.Timer

/-!
# The viewport

All terminals of a session share one geometry, which the backend announces. The client proposes
the geometry that its own display has room for: it waits until the proposals have ceased for a
while, then sends the last one, unless it was the last one sent. Main laws: `settle_eq_some_iff`
(what is sent), `settle_settled` (a proposal is used once).
-/

namespace TermSync.Session

open Terminal (Geometry)
open Time (Timer)

/-- The geometry announced, the one last sent, and a proposal that is still waiting. -/
structure Viewport where
  current : Option Geometry := none
  lastSent : Option Geometry := none
  pending : Option Geometry := none
  debounce : Option Timer := none
deriving DecidableEq, Repr

namespace Viewport

/-- Whether a proposal is waiting, or its time has come and it was not settled yet. -/
def isDebouncing (v : Viewport) : Bool := v.debounce.isSome

/-- Propose a geometry. It replaces an earlier proposal, and the wait starts anew. -/
def propose (v : Viewport) (g : Geometry) (now delay : Nat) (serial : Nat := 0) : Viewport :=
  { v with pending := some g, debounce := some (Timer.after now delay serial) }

/-- Use the proposal up. The result is the geometry to send, if there is one. -/
def settle (v : Viewport) : Option Geometry × Viewport :=
  let settled := { v with pending := none, debounce := none }
  match v.pending with
  | none => (none, settled)
  | some g =>
    if g.isDegenerate ∨ v.lastSent = some g then (none, settled)
    else (some g, { settled with lastSent := some g })

/-- The backend has announced a geometry. -/
def announce (v : Viewport) (g : Geometry) : Viewport := { v with current := some g }

/-- Forget the proposal. -/
def cancel (v : Viewport) : Viewport := { v with pending := none, debounce := none }

/-- A geometry is sent exactly when it is the proposal, has cells and was not the last one sent. -/
theorem settle_eq_some_iff (v : Viewport) (g : Geometry) :
    v.settle.1 = some g ↔ v.pending = some g ∧ g.isDegenerate = false ∧ v.lastSent ≠ some g := by
  unfold settle
  cases hp : v.pending with
  | none => simp
  | some p =>
    by_cases hd : p.isDegenerate ∨ v.lastSent = some p
    · simp only [hd, if_true, Option.some.injEq]
      constructor
      · intro h
        simp at h
      · rintro ⟨rfl, h1, h2⟩
        rcases hd with hd | hd
        · simp [h1] at hd
        · exact absurd hd h2
    · simp only [hd, if_false, Option.some.injEq]
      constructor
      · rintro rfl
        simpa [not_or] using hd
      · rintro ⟨rfl, -⟩
        rfl

/-- Nothing is left to settle. -/
theorem settle_settled (v : Viewport) :
    v.settle.2.pending = none ∧ v.settle.2.debounce = none ∧ v.settle.2.current = v.current := by
  unfold settle
  cases v.pending with
  | none => simp
  | some p => by_cases hd : p.isDegenerate ∨ v.lastSent = some p <;> simp [hd]

end Viewport
end TermSync.Session

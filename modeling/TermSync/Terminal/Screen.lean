import TermSync.Terminal.Widget

/-!
# Screens

Output may arrive before there is a widget to draw it. A screen keeps such output as its backlog;
the widget that is attached gets the whole backlog in one write, before anything newer, and from
then on all output directly.

Every operation returns the screen and the calls that it makes. Main laws: `deliver_drawn`,
`attach?_drawn`, `drain_drawn` and `resize_drawn` (what is drawn and what is kept add up to what
came in).
-/

namespace TermSync.Terminal

open Text (Bytes)

/-- Where delivered bytes went. -/
inductive Delivery where
  | written
  | buffered
deriving DecidableEq, Repr

/-- A place for output: a widget, if there is one, and the output not drawn yet. -/
structure Screen where
  widget : Option Widget := none
  backlog : Bytes := []
deriving DecidableEq, Repr

namespace Screen

/-- Whether a widget is attached. -/
def isAttached (s : Screen) : Bool := s.widget.isSome

/-- Where output would go now. -/
def delivery (s : Screen) : Delivery := if s.isAttached then .written else .buffered

/-- Take output: draw it if there is a widget, and keep it otherwise. -/
def deliver (s : Screen) (data : Bytes) : Screen × List Call :=
  match s.widget with
  | some w => (s, [⟨w, .write data⟩])
  | none => ({ s with backlog := s.backlog ++ data }, [])

/-- Draw the backlog, if there is a widget and anything to draw. -/
def drain (s : Screen) : Screen × List Call :=
  match s.widget with
  | some w =>
    if s.backlog = [] then (s, []) else ({ s with backlog := [] }, [⟨w, .write s.backlog⟩])
  | none => (s, [])

/-- The number of bytes that draining draws. -/
def drainable (s : Screen) : Nat := if s.isAttached then s.backlog.length else 0

/-- Attach a widget to a screen that has none. The widget is mounted, takes the geometry known so
far, and gets the backlog. -/
def attach? (s : Screen) (w : Widget) (geometry : Option Geometry) :
    Option (Screen × List Call) :=
  match s.widget with
  | some _ => none
  | none =>
    let sized := match geometry with
      | some g => [⟨w, .resize g⟩]
      | none => []
    let (drained, written) := drain { s with widget := some w }
    some (drained, ⟨w, .mount⟩ :: sized ++ written)

/-- Resize the widget, if there is one, and draw what was still kept. -/
def resize (s : Screen) (g : Geometry) : Screen × List Call :=
  match s.widget with
  | some w =>
    let (drained, written) := s.drain
    (drained, ⟨w, .resize g⟩ :: written)
  | none => (s, [])

/-- Give the keyboard to the widget, if there is one. -/
def focus (s : Screen) : List Call :=
  match s.widget with
  | some w => [⟨w, .focus⟩]
  | none => []

/-- Let go of the widget and forget the backlog. -/
def release (s : Screen) : Screen × List Call :=
  ({}, match s.widget with
    | some w => [⟨w, .drop⟩]
    | none => [])

/-- Delivered bytes are drawn or kept, in order. -/
theorem deliver_drawn (s : Screen) (data : Bytes) (w : Widget) (h : s.widget = some w) :
    drawn w (s.deliver data).2 = data ∧ (s.deliver data).1 = s := by
  simp [deliver, h, drawn]

/-- Draining draws exactly the backlog. -/
theorem drain_drawn (s : Screen) (w : Widget) (h : s.widget = some w) :
    drawn w s.drain.2 = s.backlog ∧ s.drain.1.backlog = [] ∧ s.drain.1.widget = some w := by
  unfold drain
  rw [h]
  by_cases hb : s.backlog = [] <;> simp [hb, h, drawn]

/-- A resize draws exactly the backlog. -/
theorem resize_drawn (s : Screen) (g : Geometry) (w : Widget) (h : s.widget = some w) :
    drawn w (s.resize g).2 = s.backlog ∧ (s.resize g).1.backlog = [] := by
  have hd := drain_drawn s w h
  simp only [resize, h, drawn, List.flatMap_cons] at hd ⊢
  exact ⟨by simpa using hd.1, hd.2.1⟩

/-- A widget that is attached gets the whole backlog. -/
theorem attach?_drawn (s r : Screen) (w : Widget) (g : Option Geometry) (calls : List Call)
    (h : s.attach? w g = some (r, calls)) :
    drawn w calls = s.backlog ∧ r.backlog = [] ∧ r.widget = some w := by
  unfold attach? at h
  split at h
  · simp at h
  · next hs =>
    have hd := drain_drawn { s with widget := some w } w rfl
    simp only [Option.some.injEq, Prod.mk.injEq] at h
    obtain ⟨rfl, rfl⟩ := h
    refine ⟨?_, hd.2.1, hd.2.2⟩
    have h1 := hd.1
    cases g <;> simpa [drawn] using h1

end Screen
end TermSync.Terminal

import TermSync.Terminal.Geometry
import TermSync.Text.Utf8

/-!
# Widgets

Drawing is left to widgets. The client opens a widget once, writes bytes to it, resizes it, gives
it the keyboard and drops it; these calls are all that it does to a widget.
-/

namespace TermSync.Terminal

open Text (Bytes)

/-- A drawing surface. The serial number tells it from every other one of its session. -/
structure Widget where
  name : String
  serial : Nat := 0
deriving DecidableEq, Repr

/-- What is done to a widget. -/
inductive Action where
  /-- It is mounted, before anything else. -/
  | mount
  /-- Bytes are drawn. -/
  | write (data : Bytes)
  /-- It takes another geometry. -/
  | resize (geometry : Geometry)
  /-- It gets the keyboard. -/
  | focus
  /-- It is let go, after everything else. -/
  | drop
deriving DecidableEq, Repr

/-- A call to a widget. -/
structure Call where
  widget : Widget
  action : Action
deriving DecidableEq, Repr

/-- The bytes that a list of calls draws on a widget. -/
def drawn (w : Widget) (calls : List Call) : Bytes :=
  calls.flatMap fun c =>
    if c.widget = w then
      match c.action with
      | .write data => data
      | _ => []
    else []

/-- Drawing goes call by call. -/
theorem drawn_append (w : Widget) (as bs : List Call) :
    drawn w (as ++ bs) = drawn w as ++ drawn w bs := List.flatMap_append

end TermSync.Terminal

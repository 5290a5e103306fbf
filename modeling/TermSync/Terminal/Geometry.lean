/-!
# Terminal geometry

The size of a terminal in character cells.
-/

namespace TermSync.Terminal

/-- Columns and rows of a terminal. -/
structure Geometry where
  cols : UInt16
  rows : UInt16
deriving DecidableEq, Repr

namespace Geometry

/-- A geometry without any cell cannot be drawn, and is never sent. -/
def isDegenerate (g : Geometry) : Bool := g.cols == 0 || g.rows == 0

/-- The usual notation, columns first. -/
def toText (g : Geometry) : String := toString g.cols.toNat ++ "x" ++ toString g.rows.toNat

end Geometry
end TermSync.Terminal

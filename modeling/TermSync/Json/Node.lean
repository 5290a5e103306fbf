/-!
# JSON text as written

A `Node` is the tree of a JSON text before anything is made of its leaves: a number keeps its
digits, an object keeps the order and the repetitions of its members, and a string that names
half a surrogate pair by an escape is kept as `none`, because it has no text.
-/

namespace TermSync.Json

/-- A number as written: sign, digits before and after the point, and the exponent's sign and
digits. There is no point exactly when `fraction` is empty. -/
structure Numeral where
  negative : Bool
  integer : List Nat
  fraction : List Nat
  exponent : Option (Bool × List Nat)
deriving DecidableEq, Repr

/-- A JSON value as written. -/
inductive Node where
  | null
  | bool (b : Bool)
  | number (n : Numeral)
  | text (s : Option String)
  | array (items : List Node)
  | object (members : List (Option String × Node))
deriving Repr, Inhabited

end TermSync.Json

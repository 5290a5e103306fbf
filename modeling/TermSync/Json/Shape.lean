import TermSync.Json.Value

/-!
# Records in JSON text

A record with named fields is written as an object, or as an array of its fields in the order of
their declaration. An object may hold other members, which are skipped whatever they hold, but no
field twice; an array may stop early, but holds no more items than the record has fields.
-/

namespace TermSync.Json.Node

/-- The values that an object gives to a name. -/
def valuesOf (name : String) (members : List (Option String × Node)) : List Node :=
  members.filterMap fun (k, v) => if k = some name then some v else none

/-- The value of a field of an object, if it has one; the field must not be given twice. -/
def field? (members : List (Option String × Node)) (name : String) : Option (Option Node) :=
  match valuesOf name members with
  | [] => some none
  | [v] => some (some v)
  | _ => none

/-- The fields of a record, in the order of their declaration. -/
def fields? (names : List String) : Node → Option (List (Option Node))
  | .object members =>
    if members.all fun m => m.1.isSome then names.mapM (field? members) else none
  | .array items =>
    if items.length ≤ names.length then
      some (items.map some ++ List.replicate (names.length - items.length) none)
    else none
  | _ => none

/-- The text of a string. -/
def text? : Node → Option String
  | .text s => s
  | _ => none

/-- The value of a boolean. -/
def bool? : Node → Option Bool
  | .bool b => some b
  | _ => none

/-- An unsigned 64-bit integer. -/
def unsigned? : Node → Option Nat
  | .number n =>
    match n.toNumber? with
    | some (.integer i) => if 0 ≤ i then some i.toNat else none
    | _ => none
  | _ => none

/-- A value that may be `null` for "none". -/
def nullable? (read : Node → Option α) : Node → Option (Option α)
  | .null => some none
  | v => (read v).map some

/-- A field that takes a default when it is absent. -/
def fieldD (read : Node → Option α) (default : α) : Option Node → Option α
  | none => some default
  | some v => read v

/-- The members of an object, sorted by key. The last of several equal keys counts, and all of
them have to be readable. -/
def members? (read : Node → Option α) : Node → Option (List (String × α))
  | .object members => do
    let pairs ← members.mapM fun (k, v) => do return (← k, ← read v)
    return pairs.foldl (fun acc (k, a) => insertKey k a acc) []
  | _ => none
where
  /-- Put a member into sorted members, in place of one with the same key. -/
  insertKey (k : String) (a : α) : List (String × α) → List (String × α)
    | [] => [(k, a)]
    | (j, b) :: rest =>
      if k = j then (k, a) :: rest
      else if k < j then (k, a) :: (j, b) :: rest
      else (j, b) :: insertKey k a rest

end TermSync.Json.Node

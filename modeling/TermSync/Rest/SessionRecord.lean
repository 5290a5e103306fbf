import TermSync.Roster.Record
import TermSync.Time.Timestamp

/-!
# Descriptions of a session

What the backend answers when it is asked for the session: its instances under their keys, in the
order of the keys, and its timestamps.
-/

namespace TermSync.Rest

open Json (Node)
open Roster (Record)
open Time (Instant)

/-- What the backend tells about a session. -/
structure SessionRecord where
  id : String := ""
  instances : List (String × Record) := []
  createdAt : Option Instant := none
  expiresAt : Option Instant := none
  ready : Option Bool := none
deriving DecidableEq, Repr

namespace SessionRecord

/-- The names of the fields in JSON. -/
def fieldNames : List String := ["id", "instances", "created_at", "expires_at", "ready"]

/-- Read a timestamp. -/
def instantOfNode? (n : Node) : Option Instant := n.text?.bind Time.Timestamp.parse?

/-- Read a session record. Each field may be absent. -/
def ofNode? (n : Node) : Option SessionRecord := do
  match ← n.fields? fieldNames with
  | [id, instances, createdAt, expiresAt, ready] =>
    return {
      id := ← Node.fieldD Node.text? "" id
      instances := ← Node.fieldD (Node.members? Record.ofNode?) [] instances
      createdAt := ← Node.fieldD (Node.nullable? instantOfNode?) none createdAt
      expiresAt := ← Node.fieldD (Node.nullable? instantOfNode?) none expiresAt
      ready := ← Node.fieldD (Node.nullable? Node.bool?) none ready }
  | _ => none

/-- Read a session record from JSON text. -/
def ofText? (s : String) : Option SessionRecord := (Node.ofText? s).bind ofNode?

end SessionRecord
end TermSync.Rest

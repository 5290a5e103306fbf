import TermSync.Json.Reader
import TermSync.Json.Shape
import TermSync.Json.Writer

/-!
# Descriptions of instances

A record says about an instance what its sender knows. All but the name may be left out, so that
a sparse record can be merged into what is known already: `merge` keeps what the newer record does
not carry. Main laws: `merge_self`, `merge_named`.
-/

namespace TermSync.Roster

open Json (Node Value textMember)

/-- What is known about an instance. The name is its key. -/
structure Record where
  name : String := ""
  ip : Option String := none
  hostname : Option String := none
  proxyHost : Option String := none
  sessionId : Option String := none
  image : Option String := none
  kind : Option String := none
deriving DecidableEq, Repr

namespace Record

/-- A record that carries nothing but a name. -/
def named (name : String) : Record := { name }

/-- What is known after a newer record: every field that it carries wins, the name stays. -/
def merge (known newer : Record) : Record where
  name := known.name
  ip := newer.ip <|> known.ip
  hostname := newer.hostname <|> known.hostname
  proxyHost := newer.proxyHost <|> known.proxyHost
  sessionId := newer.sessionId <|> known.sessionId
  image := newer.image <|> known.image
  kind := newer.kind <|> known.kind

/-- Merging a record into itself changes nothing. -/
theorem merge_self (r : Record) : r.merge r = r := by
  have hself (a : Option String) : (a <|> a) = a := by
    cases a <;> rfl
  simp only [merge, hself]

/-- Merging a record into one that only has its name gives that record. -/
theorem merge_named (r : Record) : (named r.name).merge r = r := by
  have hnone (a : Option String) : (a <|> none) = a := by
    cases a <;> rfl
  simp only [merge, named, hnone]

/-- The names of the fields in JSON, in the order in which they are written. -/
def fieldNames : List String :=
  ["name", "ip", "hostname", "proxy_host", "session_id", "image", "type"]

/-- Read a record. Each field may be absent; all but the name may also be `null`. -/
def ofNode? (n : Node) : Option Record := do
  match ← n.fields? fieldNames with
  | [name, ip, hostname, proxyHost, sessionId, image, kind] =>
    let optional := Node.fieldD (Node.nullable? Node.text?) none
    return {
      name := ← Node.fieldD Node.text? "" name
      ip := ← optional ip
      hostname := ← optional hostname
      proxyHost := ← optional proxyHost
      sessionId := ← optional sessionId
      image := ← optional image
      kind := ← optional kind }
  | _ => none

/-- Read a record from JSON text. -/
def ofText? (s : String) : Option Record := (Node.ofText? s).bind ofNode?

/-- The JSON form of a record, without the fields that it does not carry. -/
def toValue (r : Record) : Value :=
  .object (("name", .text r.name) :: (textMember "ip" r.ip ++ textMember "hostname" r.hostname ++
    textMember "proxy_host" r.proxyHost ++ textMember "session_id" r.sessionId ++
    textMember "image" r.image ++ textMember "type" r.kind))

/-- The JSON text of a record. -/
def toText (r : Record) : String := r.toValue.toText

end Record
end TermSync.Roster

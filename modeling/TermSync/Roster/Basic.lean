import TermSync.Roster.Instance
import TermSync.Roster.Table

/-!
# The roster

All instances of the session under their names, the order in which they are shown, an index of host
names, and the selected instance. Records, placeholders and early output all enter through `upsert`,
so that they meet in one instance whichever comes first.

Several instances may have the same host name; the index then holds the one that got it last, and
when that one gives it up, the first of the others in display order.
-/

namespace TermSync

open Roster (Instance Record Table)
open Terminal (Call Delivery Geometry Widget)
open Text (Bytes)

/-- The instances of a session. -/
structure Roster where
  /-- The instances by name. -/
  entries : Table Instance := {}
  /-- For each host name in use, the name of the instance that holds it. -/
  holders : Table String := {}
  /-- The names in display order. -/
  order : List String := []
  /-- The name of the selected instance. -/
  selected : Option String := none
deriving DecidableEq, Repr

namespace Roster

/-- The names in display order. -/
def names (r : Roster) : List String := r.order

/-- The instance with a name. -/
def get? (r : Roster) (name : String) : Option Instance := r.entries.get? name

/-- Whether there is an instance with a name. -/
def contains (r : Roster) (name : String) : Bool := r.entries.contains name

/-- The number of instances. -/
def size (r : Roster) : Nat := r.entries.size

/-- The instances in display order. -/
def instances (r : Roster) : List Instance := r.order.filterMap r.get?

/-- The selected instance. -/
def selected? (r : Roster) : Option Instance := r.selected.bind r.get?

/-- The instance that holds a host name. -/
def byHostname? (r : Roster) (host : String) : Option Instance :=
  (r.holders.get? host).bind r.get?

/-- Change the instance with a name, if there is one. -/
def update (r : Roster) (name : String) (f : Instance → Instance) : Roster :=
  { r with entries := r.entries.modify name f }

/-- The first other instance in display order that has a host name. -/
def heir? (r : Roster) (host name : String) : Option String :=
  r.order.find? fun n => n != name && (r.get? n).any fun i => i.hostname == some host

/-- Take a host name away from an instance, if it holds it. The first other instance with this
host name becomes its holder. -/
def giveUp (r : Roster) (host name : String) : Table String :=
  if r.holders.get? host = some name then
    match r.heir? host name with
    | some heir => r.holders.insert host heir
    | none => r.holders.erase host
  else r.holders

/-- The index after an instance has got the host name of a record, if it carries one. -/
def holdersAfter (r : Roster) (record : Record) : Table String :=
  match record.hostname with
  | none => r.holders
  | some host =>
    let freed :=
      match (r.get? record.name).bind Instance.hostname with
      | some old => if old = host then r.holders else r.giveUp old record.name
      | none => r.holders
    freed.insert host record.name

/-- Merge a record into the instance with its name, which confirms it, or append a new one. -/
def upsert (r : Roster) (record : Record) : Roster :=
  match r.get? record.name with
  | some i =>
    { r with
      entries := r.entries.insert record.name (i.merge record)
      holders := r.holdersAfter record }
  | none =>
    { r with
      entries := r.entries.insert record.name (Instance.ofRecord record)
      holders := r.holdersAfter record
      order := r.order ++ [record.name] }

/-- Put in a placeholder for an instance that was asked for. -/
def insertPlaceholder (r : Roster) (key : String) : Roster :=
  (r.upsert (Record.named key)).update key fun i => { i with provisional := true }

/-- An instance that was taken out, what is left, and the calls made on the way. -/
structure Removal where
  removed : Instance
  rest : Roster
  calls : List Call

/-- Take an instance out and release what it holds. If it was selected, the first of the others
is selected instead. -/
def remove? (r : Roster) (name : String) : Option Removal :=
  match r.get? name with
  | none => none
  | some i =>
    let taken := { r with entries := r.entries.erase name }
    let holders :=
      match i.hostname with
      | some host => taken.giveUp host name
      | none => r.holders
    let order := r.order.filter fun n => n != name
    let selected := if r.selected = some name then order.head? else r.selected
    some
      { removed := i.release.1
        rest := { entries := taken.entries, holders, order, selected }
        calls := i.release.2 }

/-- Select an instance, if it is there. -/
def select? (r : Roster) (name : String) : Option Roster :=
  if r.contains name then some { r with selected := some name } else none

/-- The calls made when every instance is released. -/
def releaseCalls (r : Roster) : List Call := r.entries.values.flatMap fun i => i.release.2

/-- Where output for an instance would go now. -/
def delivery (r : Roster) (name : String) : Delivery :=
  match r.get? name with
  | some i => i.screen.delivery
  | none => .buffered

/-- Deliver output to an instance. Output for an instance not announced yet makes one, into which
the announcement will be merged. -/
def route (r : Roster) (name : String) (data : Bytes) : Roster × List Call :=
  let r := if r.contains name then r else r.upsert (Record.named name)
  match r.get? name with
  | some i =>
    let (screen, calls) := i.screen.deliver data
    (r.update name fun i => { i with screen }, calls)
  | none => (r, [])

/-- Resize every widget and draw what was still kept. -/
def resizeAll (r : Roster) (g : Geometry) : Roster × List Call :=
  ({ r with entries := r.entries.map fun i => { i with screen := (i.screen.resize g).1 } },
    r.entries.values.flatMap fun i => (i.screen.resize g).2)

/-- The roster at a later moment: timers have fired. -/
def moveTo (r : Roster) (moment : Nat) : Roster :=
  { r with entries := r.entries.map fun i => i.moveTo moment }

/-- Whether no name occurs twice. -/
def distinct : List String → Bool
  | [] => true
  | n :: ns => !ns.contains n && distinct ns

/-- Whether the display order lists each instance once, and the index and the selection refer to
instances only. -/
def isConsistent (r : Roster) : Bool :=
  distinct r.order && r.order.length == r.entries.size && r.order.all r.contains &&
    r.holders.values.all r.contains && r.selected.all fun name => r.order.contains name

end Roster
end TermSync

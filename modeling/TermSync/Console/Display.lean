import TermSync.Session.State

/-!
# The display of the console

Output of the instance that has the keyboard goes to standard output; that of any other instance
is not shown. When an instance gets the keyboard, its name is shown on standard error, where the
builder's console writes, too.
-/

namespace TermSync.Console

open Session (State)
open Terminal (Call Widget)
open Text (Bytes)

/-- Something that the program writes. -/
inductive Output where
  | stdout (data : Bytes)
  | stderr (data : Bytes)
deriving DecidableEq, Repr

/-- A line on standard error. -/
def Output.line (s : String) : Output := .stderr (Text.Utf8.encode (s.toList ++ ['\n']))

/-- What the display knows: the widget of the builder's console, and the name of the instance that
has the keyboard. -/
structure Display where
  builder : Option Widget := none
  focused : Option String := none
deriving DecidableEq, Repr

namespace Display

/-- What a call shows. -/
def call (d : Display) (c : Call) : Display × List Output :=
  match c.action with
  | .write data =>
    if d.builder = some c.widget then (d, [.stderr data])
    else if d.focused = some c.widget.name then (d, [.stdout data])
    else (d, [])
  | .focus =>
    if d.builder = some c.widget then (d, [])
    else
      ({ d with focused := some c.widget.name },
        [Output.line ("--- " ++ c.widget.name ++ " ---")])
  | .mount | .resize _ | .drop => (d, [])

/-- What a list of calls shows. -/
def calls (d : Display) : List Call → Display × List Output
  | [] => (d, [])
  | c :: rest =>
    let (next, shown) := d.call c
    let (last, more) := calls next rest
    (last, shown ++ more)

end Display

/-- The list of the instances, line by line. -/
def listing (s : State) : List String :=
  ("session " ++ s.lifecycle.id ++ " (expires in " ++ s.countdown ++ ")") ::
    s.roster.instances.map fun i =>
      (if s.roster.selected = some i.name then "* " else "  ") ++ i.name ++
        " ip=" ++ i.ip.getD "-" ++ " host=" ++ i.hostname.getD "-"

end TermSync.Console

import TermSync.Roster.Record
import TermSync.Terminal.Screen
import TermSync.Time.Timer

/-!
# Instances

The local picture of one remote instance: what records and reports have told about it, its screen,
and the input typed into it that has not been sent yet.

An instance holds the fields of a record one by one, beside what only this side knows: `absorb`
takes them in from a record, `toRecord` gives them back as one. Main laws: `toRecord_absorb` (what
an instance takes in is what its record takes in), `toRecord_ofRecord`, `absorb_toRecord`,
`absorb_absorb`.

Input is bytes, but the wire carries text. `takeTyped` sends all of it but the bytes of a
character that is not complete. Main law: `takeTyped_pending` (what is sent and what is kept add
up to what was typed).
-/

namespace TermSync.Roster

open Terminal (Screen Call)
open Text (Bytes)
open Time (Timer)

/-- A remote instance, as far as the client knows it. -/
structure Instance where
  /-- The key of the instance. -/
  name : String
  ip : Option String := none
  hostname : Option String := none
  proxyHost : Option String := none
  sessionId : Option String := none
  image : Option String := none
  kind : Option String := none
  /-- Memory and processor usage, worded by the backend. -/
  mem : String := ""
  cpu : String := ""
  isManager : Bool := false
  isK8sManager : Bool := false
  ports : List UInt16 := []
  swarmPorts : List UInt16 := []
  /-- The state of the terminal's connection, worded by the backend. -/
  status : Option String := none
  /-- Whether this only stands for an instance that was asked for. -/
  provisional : Bool := false
  screen : Screen := {}
  /-- What was typed and not sent yet. -/
  typed : Bytes := []
  /-- When to send what was typed. -/
  flushTimer : Option Timer := none
deriving DecidableEq, Repr

namespace Instance

/-- What is known about the instance, as a record. -/
def toRecord (i : Instance) : Record where
  name := i.name
  ip := i.ip
  hostname := i.hostname
  proxyHost := i.proxyHost
  sessionId := i.sessionId
  image := i.image
  kind := i.kind

/-- Take in a newer record: every field that it carries wins. The name and everything else stay. -/
def absorb (i : Instance) (r : Record) : Instance :=
  { i with
    ip := r.ip <|> i.ip
    hostname := r.hostname <|> i.hostname
    proxyHost := r.proxyHost <|> i.proxyHost
    sessionId := r.sessionId <|> i.sessionId
    image := r.image <|> i.image
    kind := r.kind <|> i.kind }

/-- An instance of which nothing is known but a record: one that only has its name takes it in. -/
def ofRecord (r : Record) : Instance := absorb { name := r.name } r

/-- What an instance takes in is what its record takes in. -/
@[simp] theorem toRecord_absorb (i : Instance) (r : Record) :
    (i.absorb r).toRecord = i.toRecord.merge r := rfl

@[simp] theorem screen_absorb (i : Instance) (r : Record) : (i.absorb r).screen = i.screen := rfl

@[simp] theorem screen_ofRecord (r : Record) : (ofRecord r).screen = {} := rfl

/-- An instance that is made of a record gives it back. -/
@[simp] theorem toRecord_ofRecord (r : Record) : (ofRecord r).toRecord = r := by
  rw [ofRecord, toRecord_absorb]
  exact Record.merge_named r

/-- Records that mean the same to what is known about an instance mean the same to the instance. -/
theorem absorb_congr {i : Instance} {r s : Record}
    (h : i.toRecord.merge r = i.toRecord.merge s) : i.absorb r = i.absorb s := by
  simp only [Record.merge, Record.mk.injEq, toRecord, true_and] at h
  obtain ⟨hip, hhostname, hproxyHost, hsessionId, himage, hkind⟩ := h
  simp only [absorb, hip, hhostname, hproxyHost, hsessionId, himage, hkind]

/-- What is known about an instance tells it nothing. -/
@[simp] theorem absorb_toRecord (i : Instance) : i.absorb i.toRecord = i := by
  have hnamed : i.absorb (Record.named i.name) = i := rfl
  refine (absorb_congr ?_).trans hnamed
  rw [Record.merge_self]
  rfl

/-- Two records are taken in as one. -/
theorem absorb_absorb (i : Instance) (r s : Record) :
    (i.absorb r).absorb s = i.absorb (r.merge s) := by
  have horElse (a b c : Option String) : (c <|> b <|> a) = ((c <|> b) <|> a) := by
    cases c <;> rfl
  simp only [absorb, Record.merge, horElse]

/-- An instance after a newer record, which confirms it. -/
def merge (i : Instance) (r : Record) : Instance := { i.absorb r with provisional := false }

/-- Two records confirm an instance as one. -/
theorem merge_merge (i : Instance) (r s : Record) :
    (i.merge r).merge s = i.merge (r.merge s) :=
  congrArg (fun j => { j with provisional := false }) (absorb_absorb i r s)

/-- An instance that is made of a record is confirmed by any other. -/
theorem merge_ofRecord (r s : Record) :
    (ofRecord r).merge s = absorb { name := r.name } (r.merge s) :=
  absorb_absorb { name := r.name } r s

/-- Let go of the widget and the timer, and forget what was not drawn or not sent. -/
def release (i : Instance) : Instance × List Call :=
  let (screen, calls) := i.screen.release
  ({ i with screen, typed := [], flushTimer := none }, calls)

/-- Keep input until it is sent. -/
def type (i : Instance) (data : Bytes) : Instance := { i with typed := i.typed ++ data }

/-- Take what was typed, as text, up to a character that is not complete; nothing if there is no
complete one. -/
def takeTyped (i : Instance) : Option String × Instance :=
  let count := i.typed.length - Text.Utf8.unfinished i.typed
  if count = 0 then (none, i)
  else
    (some (String.ofList (Text.Utf8.decodeLossy (i.typed.take count))),
      { i with typed := i.typed.drop count })

/-- What is kept is what the text sent leaves over. -/
theorem takeTyped_pending (i : Instance) :
    ∃ sent, i.typed = sent ++ i.takeTyped.2.typed ∧
      i.takeTyped.1.getD "" = String.ofList (Text.Utf8.decodeLossy sent) := by
  unfold takeTyped
  simp only
  split
  · exact ⟨[], by simp, by simp [Text.Utf8.decodeLossy, Text.Utf8.pieces]⟩
  · exact ⟨_, (List.take_append_drop _ _).symm, rfl⟩

/-- To take what was typed touches neither what is known nor the screen. -/
theorem takeTyped_frame (i : Instance) :
    i.takeTyped.2.toRecord = i.toRecord ∧ i.takeTyped.2.screen = i.screen := by
  unfold takeTyped
  dsimp only
  split <;> exact ⟨rfl, rfl⟩

/-- Send input every `period` from now on. -/
def startFlushTimer (i : Instance) (now period : Nat) (serial : Nat := 0) : Instance :=
  { i with flushTimer := some (Timer.every now period serial) }

/-- The instance at a later moment: its timer has fired. -/
def moveTo (i : Instance) (moment : Nat) : Instance :=
  { i with flushTimer := i.flushTimer.map fun t => t.advance moment }

end Instance
end TermSync.Roster

import TermSync.Proofs.Decimal.Value
import TermSync.Wire.Inbound

/-!
# What arguments look like

A `Slot` says what an event wants at one of its positions, without a word on how it is read. Each
reader of arguments is then shown to accept exactly the arguments that fit its slot, and to name
its position when it refuses one (`Reads`).

Main statements: `reads_text`, `reads_text?`, `reads_boolean`, `reads_dimension` and `reads_report`;
`ofValue_eq_ok_iff` for each kind of report.
-/

namespace TermSync.Wire

open Json (Value)

/-! ## Forms -/

/-- What a field of a report holds. -/
inductive FieldType where
  | text
  | flag
  /-- An array of strings. -/
  | texts
  /-- An array of port numbers. -/
  | ports
deriving DecidableEq, Repr

/-- A field of a report. -/
structure Field where
  name : String
  type : FieldType
  required : Bool := false
deriving DecidableEq, Repr

/-- The values of a type. -/
def FieldType.Fits : FieldType → Value → Prop
  | .text, v => ∃ s, v = .text s
  | .flag, v => ∃ b, v = .bool b
  | .texts, v => ∃ items, v = .array items ∧ ∀ w ∈ items, ∃ s, w = .text s
  | .ports, v =>
    ∃ items, v = .array items ∧ ∀ w ∈ items, ∃ i : Int, 0 ≤ i ∧ i ≤ 65535 ∧ w = .number (.integer i)

/-- What may be found for a field: a value of its type, or nothing unless it is required. -/
def Field.Fits (f : Field) : Option Value → Prop
  | some v => f.type.Fits v
  | none => f.required = false

/-- A report with these fields: an object that gives the fields by name, or an array that gives
them by position and holds nothing else. -/
def FitsReport (fields : List Field) : Value → Prop
  | .object members => ∀ f ∈ fields, f.Fits (members.lookup f.name)
  | .array items =>
    items.length ≤ fields.length ∧ ∀ p ∈ fields.zipIdx, p.1.Fits items[p.2]?
  | _ => False

/-- What an event wants at one of its positions. -/
inductive Slot where
  | text
  /-- A string, `null` or nothing. -/
  | optionalText
  | flag
  | dimension
  | report (fields : List Field)
deriving DecidableEq, Repr

/-- The whole part of a number that is not below zero. -/
def WholePart (n : Nat) : Value → Prop
  | .number (.integer i) => i = n
  | .number (.double d) => 0 ≤ d.value ∧ ⌊d.value⌋₊ = n
  | _ => False

/-- Whether an argument, if there is one, is what an event wants. -/
def Slot.Fits : Slot → Option Value → Prop
  | .text, a => ∃ s, a = some (.text s)
  | .optionalText, a => a = none ∨ a = some .null ∨ ∃ s, a = some (.text s)
  | .flag, a => ∃ b, a = some (.bool b)
  | .dimension, a => ∃ v n, a = some v ∧ WholePart n v ∧ n ≤ 65535
  | .report fields, a => ∃ v, a = some v ∧ FitsReport fields v

/-- The position that a refusal is about. -/
def ArgumentFault.index : ArgumentFault → Nat
  | .missing i | .notText i | .notBoolean i | .notDimension i | .dimensionTooLarge i
  | .mismatch i _ => i

/-- What an optional string shows of its argument: the string, if it is one. -/
def ShowsOptional (a : Option Value) (o : Option String) : Prop :=
  ∀ s, o = some s ↔ a = some (.text s)

/-- The outcome of reading one argument: what is read is as `shown` says if the argument fits, and
the argument's position is told if it does not. -/
def Reads (s : Slot) (a : Option Value) (i : Nat) (shown : α → Prop)
    (r : Except ArgumentFault α) : Prop :=
  (s.Fits a ∧ ∃ x, r = .ok x ∧ shown x) ∨ (¬s.Fits a ∧ ∃ fault, r = .error fault ∧ fault.index = i)

/-! ## Single arguments -/

namespace Arguments

theorem reads_text (args : List Value) (i : Nat) :
    Reads .text args[i]? i (fun s => args[i]? = some (.text s)) (text args i) := by
  rw [text, get]
  rcases args[i]? with _ | v
  · exact .inr ⟨by simp [Slot.Fits], _, rfl, rfl⟩
  · cases v with
    | text s => exact .inl ⟨⟨s, rfl⟩, s, rfl, rfl⟩
    | _ => exact .inr ⟨by simp [Slot.Fits], _, rfl, rfl⟩

theorem reads_text? (args : List Value) (i : Nat) :
    Reads .optionalText args[i]? i (ShowsOptional args[i]?) (text? args i) := by
  rw [text?]
  rcases args[i]? with _ | v
  · exact .inl ⟨.inl rfl, none, rfl, by simp [ShowsOptional]⟩
  · cases v with
    | null => exact .inl ⟨.inr (.inl rfl), none, rfl, by simp [ShowsOptional]⟩
    | text s => exact .inl ⟨.inr (.inr ⟨s, rfl⟩), some s, rfl, by simp [ShowsOptional]⟩
    | _ => exact .inr ⟨by simp [Slot.Fits], _, rfl, rfl⟩

theorem reads_boolean (args : List Value) (i : Nat) :
    Reads .flag args[i]? i (fun b => args[i]? = some (.bool b)) (boolean args i) := by
  rw [boolean, get]
  rcases args[i]? with _ | v
  · exact .inr ⟨by simp [Slot.Fits], _, rfl, rfl⟩
  · cases v with
    | bool b => exact .inl ⟨⟨b, rfl⟩, b, rfl, rfl⟩
    | _ => exact .inr ⟨by simp [Slot.Fits], _, rfl, rfl⟩

/-- The whole part of a number, computed. -/
theorem wholePart?_eq_some_iff {v : Value} {n : Nat} :
    wholePart? v = some n ↔ WholePart n v := by
  cases v with
  | number num =>
    cases num with
    | integer i =>
      rw [wholePart?, WholePart]
      split
      · next hi => rw [Option.some.injEq]; omega
      · next hi => simp only [reduceCtorEq, false_iff]; omega
    | double d =>
      rw [wholePart?, WholePart, d.value_nonneg_iff]
      split
      · next hneg => simp [hneg]
      · next hneg =>
        have hnonneg : (d.negative && !d.isZero) = false := Bool.eq_false_iff.mpr hneg
        rw [Decimal.Binary64.floor_value (d.value_nonneg_iff.mpr hnonneg), Option.some.injEq]
        exact (and_iff_right hnonneg).symm
  | _ => simp [wholePart?, WholePart]

private theorem fits_dimension_iff {v : Value} :
    Slot.dimension.Fits (some v) ↔ ∃ n, wholePart? v = some n ∧ n < 65536 := by
  constructor
  · rintro ⟨w, n, hw, hn, hle⟩
    obtain rfl := Option.some.inj hw
    exact ⟨n, wholePart?_eq_some_iff.mpr hn, by omega⟩
  · rintro ⟨n, hn, hlt⟩
    exact ⟨v, n, rfl, wholePart?_eq_some_iff.mp hn, by omega⟩

theorem reads_dimension (args : List Value) (i : Nat) :
    Reads .dimension args[i]? i (fun n => ∃ v, args[i]? = some v ∧ WholePart n.toNat v)
      (dimension args i) := by
  rw [dimension, get]
  rcases args[i]? with _ | v
  · exact .inr ⟨by simp [Slot.Fits], _, rfl, rfl⟩
  simp only [bind, Except.bind]
  rw [Reads, fits_dimension_iff]
  cases hv : wholePart? v with
  | none => exact .inr ⟨by simp, _, rfl, rfl⟩
  | some n =>
    by_cases hn : n < 65536
    · have hpart : WholePart (UInt16.ofNat n).toNat v := by
        rw [UInt16.toNat_ofNat_of_lt' hn]
        exact wholePart?_eq_some_iff.mp hv
      exact .inl ⟨⟨n, rfl, hn⟩, UInt16.ofNat n, by simp only [if_pos hn]; rfl, v, rfl, hpart⟩
    · refine .inr ⟨?_, .dimensionTooLarge i, by simp only [if_neg hn]; rfl, rfl⟩
      rintro ⟨m, hm, hlt⟩
      exact hn (Option.some.inj hm ▸ hlt)

/-- A report is read exactly where its own reader succeeds. -/
theorem reads_report {fields : List Field} {read : Value → Except Mismatch α}
    (hread : ∀ v, (∃ x, read v = .ok x) ↔ FitsReport fields v) (args : List Value) (i : Nat) :
    Reads (.report fields) args[i]? i (fun x => ∃ v, args[i]? = some v ∧ read v = .ok x)
      (report read args i) := by
  rw [report, get]
  rcases args[i]? with _ | v
  · exact .inr ⟨by simp [Slot.Fits], _, rfl, rfl⟩
  have hfits : (Slot.report fields).Fits (some v) ↔ ∃ x, read v = .ok x := by
    rw [hread]
    simp [Slot.Fits]
  simp only [bind, Except.bind]
  rw [Reads, hfits]
  cases hv : read v with
  | ok x => exact .inl ⟨⟨x, rfl⟩, x, rfl, v, rfl, hv⟩
  | error cause => exact .inr ⟨by simp, .mismatch i cause, rfl, rfl⟩

end Arguments

/-! ## Fields -/

private theorem bind_eq_ok_iff {α β : Type u} {x : Except ε α} {f : α → Except ε β} {b : β} :
    x >>= f = .ok b ↔ ∃ a, x = .ok a ∧ f a = .ok b := by
  cases x with
  | ok a => exact ⟨fun h => ⟨a, rfl, h⟩, fun ⟨_, ha, h⟩ => Except.ok.inj ha ▸ h⟩
  | error e => exact ⟨nofun, nofun⟩

/-- Whether a reader accepts exactly the values of a type. -/
def FieldType.ReadBy (t : FieldType) (read : Value → Except Mismatch α) : Prop :=
  ∀ v, (∃ x, read v = .ok x) ↔ t.Fits v

namespace Report

theorem readBy_text : FieldType.text.ReadBy text := by
  intro v
  cases v <;> simp [text, FieldType.Fits]

theorem readBy_flag : FieldType.flag.ReadBy flag := by
  intro v
  cases v <;> simp [flag, FieldType.Fits]

private theorem mapM_eq_ok_iff {read : Value → Except Mismatch α} {items : List Value} :
    (∃ xs, items.mapM read = .ok xs) ↔ ∀ w ∈ items, ∃ x, read w = .ok x := by
  induction items with
  | nil => exact ⟨fun _ => by simp, fun _ => ⟨[], rfl⟩⟩
  | cons w ws ih =>
    rw [List.forall_mem_cons, ← ih, List.mapM_cons]
    simp only [bind_eq_ok_iff]
    constructor
    · rintro ⟨_, x, hx, xs, hxs, -⟩
      exact ⟨⟨x, hx⟩, xs, hxs⟩
    · rintro ⟨⟨x, hx⟩, xs, hxs⟩
      exact ⟨x :: xs, x, hx, xs, hxs, rfl⟩

private theorem sequence_eq_ok_iff {read : Value → Except Mismatch α} {v : Value} :
    (∃ xs, sequence read v = .ok xs) ↔
      ∃ items, v = .array items ∧ ∀ w ∈ items, ∃ x, read w = .ok x := by
  cases v with
  | array items => simp [sequence, mapM_eq_ok_iff]
  | _ => simp [sequence]

theorem readBy_texts : FieldType.texts.ReadBy (sequence text) := by
  intro v
  have hitem (w : Value) : (∃ x, text w = .ok x) ↔ ∃ s, w = .text s := readBy_text w
  simp only [sequence_eq_ok_iff, hitem]
  rfl

private theorem portNumber_eq_ok_iff {w : Value} :
    (∃ p, portNumber w = .ok p) ↔ ∃ i : Int, 0 ≤ i ∧ i ≤ 65535 ∧ w = .number (.integer i) := by
  cases w with
  | number num =>
    cases num with
    | integer i =>
      rw [portNumber]
      split
      · next h => exact ⟨fun _ => ⟨i, h.1, by omega, rfl⟩, fun _ => ⟨_, rfl⟩⟩
      · next h =>
        refine ⟨nofun, fun ⟨j, hnonneg, hle, hj⟩ => ?_⟩
        obtain rfl : i = j := by simpa using hj
        exact absurd ⟨hnonneg, by omega⟩ h
    | double d => simp [portNumber]
  | _ => simp [portNumber]

theorem readBy_ports : FieldType.ports.ReadBy (sequence portNumber) := by
  intro v
  simp only [sequence_eq_ok_iff, portNumber_eq_ok_iff]
  rfl

/-- Read what is found for a field, if anything is. -/
def fetch (read : Value → Except Mismatch α) : Option Value → Except Mismatch (Option α)
  | some v => (read v).map some
  | none => .ok none

theorem member?_eq_fetch (members : List (String × Value)) (name : String)
    (read : Value → Except Mismatch α) :
    member? members name read = fetch read (members.lookup name) := rfl

theorem item?_eq_fetch (items : List Value) (i : Nat) (read : Value → Except Mismatch α) :
    item? items i read = fetch read items[i]? := rfl

/-- A field with a default is read where it fits. -/
theorem fetch_eq_ok_iff {t : FieldType} {read : Value → Except Mismatch α} (h : t.ReadBy read)
    (name : String) (o : Option Value) :
    (∃ x, fetch read o = .ok x) ↔ Field.Fits ⟨name, t, false⟩ o := by
  cases o with
  | none => exact ⟨fun _ => rfl, fun _ => ⟨none, rfl⟩⟩
  | some v =>
    rw [Field.Fits, ← h v, fetch]
    cases read v with
    | ok x => exact ⟨fun _ => ⟨x, rfl⟩, fun _ => ⟨some x, rfl⟩⟩
    | error e => exact ⟨nofun, nofun⟩

/-- A required field is read, and found, where it fits. -/
theorem fetch_eq_ok_some_iff {t : FieldType} {read : Value → Except Mismatch α} (h : t.ReadBy read)
    (name : String) (o : Option Value) :
    (∃ x, fetch read o = .ok (some x)) ↔ Field.Fits ⟨name, t, true⟩ o := by
  cases o with
  | none => exact ⟨nofun, nofun⟩
  | some v =>
    rw [Field.Fits, ← h v, fetch]
    cases read v with
    | ok x => exact ⟨fun _ => ⟨x, rfl⟩, fun _ => ⟨x, rfl⟩⟩
    | error e => exact ⟨nofun, nofun⟩

private theorem require_eq_ok_iff {fault : Mismatch} {o : Option α} {x : α} :
    require fault o = .ok x ↔ o = some x := by
  cases o with
  | none => exact ⟨nofun, nofun⟩
  | some y => simp [require]

private theorem atMost_eq_ok_iff {fields : Nat} {items : List Value} {u : Unit} :
    atMost fields items = .ok u ↔ items.length ≤ fields := by
  rw [atMost]
  split
  · next h => exact ⟨nofun, fun hle => absurd h (by omega)⟩
  · next h => exact ⟨fun _ => by omega, fun _ => rfl⟩

end Report

/-! ## Reports -/

/-- The fields of a sample of resource usage. -/
def StatsReport.fields : List Field :=
  [⟨"instance", .text, true⟩, ⟨"mem", .text, false⟩, ⟨"cpu", .text, false⟩]

/-- The fields of a role. -/
def RoleReport.fields : List Field :=
  [⟨"instance", .text, true⟩, ⟨"is_manager", .flag, false⟩, ⟨"is_worker", .flag, false⟩]

/-- The fields of an instance's ports. -/
def PortsReport.fields : List Field := [⟨"instance", .text, true⟩, ⟨"ports", .ports, false⟩]

/-- The fields of a swarm's ports. -/
def SwarmPortsReport.fields : List Field :=
  [⟨"instances", .texts, false⟩, ⟨"ports", .ports, false⟩]

open Report

/-- A report is read exactly where the fields are found that it has. -/
theorem StatsReport.ofValue_eq_ok_iff (v : Value) :
    (∃ r, StatsReport.ofValue v = .ok r) ↔ FitsReport fields v := by
  cases v with
  | object ms =>
    simp only [StatsReport.ofValue, member?_eq_fetch, bind_eq_ok_iff, require_eq_ok_iff, FitsReport,
      fields, List.forall_mem_cons, ← fetch_eq_ok_iff readBy_text,
      ← fetch_eq_ok_some_iff readBy_text]
    constructor
    · rintro ⟨_, cpu, hcpu, _, hname, mem, hmem, name, rfl, -⟩
      exact ⟨⟨name, hname⟩, ⟨mem, hmem⟩, ⟨cpu, hcpu⟩, by simp⟩
    · rintro ⟨⟨name, hname⟩, ⟨mem, hmem⟩, ⟨cpu, hcpu⟩, -⟩
      exact ⟨_, cpu, hcpu, some name, hname, mem, hmem, name, rfl, rfl⟩
  | array items =>
    simp only [StatsReport.ofValue, item?_eq_fetch, bind_eq_ok_iff, require_eq_ok_iff,
      atMost_eq_ok_iff, FitsReport, fields, List.zipIdx, List.forall_mem_cons,
      ← fetch_eq_ok_iff readBy_text, ← fetch_eq_ok_some_iff readBy_text]
    constructor
    · rintro ⟨_, _, hname, name, rfl, mem, hmem, cpu, hcpu, _, hlength, -⟩
      exact ⟨hlength, ⟨name, hname⟩, ⟨mem, hmem⟩, ⟨cpu, hcpu⟩, by simp⟩
    · rintro ⟨hlength, ⟨name, hname⟩, ⟨mem, hmem⟩, ⟨cpu, hcpu⟩, -⟩
      exact ⟨_, some name, hname, name, rfl, mem, hmem, cpu, hcpu, (), hlength, rfl⟩
  | _ => simp [StatsReport.ofValue, FitsReport]

theorem RoleReport.ofValue_eq_ok_iff (v : Value) :
    (∃ r, RoleReport.ofValue v = .ok r) ↔ FitsReport fields v := by
  cases v with
  | object ms =>
    simp only [RoleReport.ofValue, member?_eq_fetch, bind_eq_ok_iff, require_eq_ok_iff, FitsReport,
      fields, List.forall_mem_cons, ← fetch_eq_ok_iff readBy_flag,
      ← fetch_eq_ok_some_iff readBy_text]
    constructor
    · rintro ⟨_, _, hname, manager, hmanager, worker, hworker, name, rfl, -⟩
      exact ⟨⟨name, hname⟩, ⟨manager, hmanager⟩, ⟨worker, hworker⟩, by simp⟩
    · rintro ⟨⟨name, hname⟩, ⟨manager, hmanager⟩, ⟨worker, hworker⟩, -⟩
      exact ⟨_, some name, hname, manager, hmanager, worker, hworker, name, rfl, rfl⟩
  | array items =>
    simp only [RoleReport.ofValue, item?_eq_fetch, bind_eq_ok_iff, require_eq_ok_iff,
      atMost_eq_ok_iff, FitsReport, fields, List.zipIdx, List.forall_mem_cons,
      ← fetch_eq_ok_iff readBy_flag, ← fetch_eq_ok_some_iff readBy_text]
    constructor
    · rintro ⟨_, _, hname, name, rfl, manager, hmanager, worker, hworker, _, hlength, -⟩
      exact ⟨hlength, ⟨name, hname⟩, ⟨manager, hmanager⟩, ⟨worker, hworker⟩, by simp⟩
    · rintro ⟨hlength, ⟨name, hname⟩, ⟨manager, hmanager⟩, ⟨worker, hworker⟩, -⟩
      exact ⟨_, some name, hname, name, rfl, manager, hmanager, worker, hworker, (), hlength, rfl⟩
  | _ => simp [RoleReport.ofValue, FitsReport]

theorem PortsReport.ofValue_eq_ok_iff (v : Value) :
    (∃ r, PortsReport.ofValue v = .ok r) ↔ FitsReport fields v := by
  cases v with
  | object ms =>
    simp only [PortsReport.ofValue, member?_eq_fetch, bind_eq_ok_iff, require_eq_ok_iff, FitsReport,
      fields, List.forall_mem_cons, ← fetch_eq_ok_iff readBy_ports,
      ← fetch_eq_ok_some_iff readBy_text]
    constructor
    · rintro ⟨_, _, hname, ports, hports, name, rfl, -⟩
      exact ⟨⟨name, hname⟩, ⟨ports, hports⟩, by simp⟩
    · rintro ⟨⟨name, hname⟩, ⟨ports, hports⟩, -⟩
      exact ⟨_, some name, hname, ports, hports, name, rfl, rfl⟩
  | array items =>
    simp only [PortsReport.ofValue, item?_eq_fetch, bind_eq_ok_iff, require_eq_ok_iff,
      atMost_eq_ok_iff, FitsReport, fields, List.zipIdx, List.forall_mem_cons,
      ← fetch_eq_ok_iff readBy_ports, ← fetch_eq_ok_some_iff readBy_text]
    constructor
    · rintro ⟨_, _, hname, name, rfl, ports, hports, _, hlength, -⟩
      exact ⟨hlength, ⟨name, hname⟩, ⟨ports, hports⟩, by simp⟩
    · rintro ⟨hlength, ⟨name, hname⟩, ⟨ports, hports⟩, -⟩
      exact ⟨_, some name, hname, name, rfl, ports, hports, (), hlength, rfl⟩
  | _ => simp [PortsReport.ofValue, FitsReport]

theorem SwarmPortsReport.ofValue_eq_ok_iff (v : Value) :
    (∃ r, SwarmPortsReport.ofValue v = .ok r) ↔ FitsReport fields v := by
  cases v with
  | object ms =>
    simp only [SwarmPortsReport.ofValue, member?_eq_fetch, bind_eq_ok_iff, FitsReport,
      fields, List.forall_mem_cons, ← fetch_eq_ok_iff readBy_texts, ← fetch_eq_ok_iff readBy_ports]
    constructor
    · rintro ⟨_, instances, hinstances, ports, hports, -⟩
      exact ⟨⟨instances, hinstances⟩, ⟨ports, hports⟩, by simp⟩
    · rintro ⟨⟨instances, hinstances⟩, ⟨ports, hports⟩, -⟩
      exact ⟨_, instances, hinstances, ports, hports, rfl⟩
  | array items =>
    simp only [SwarmPortsReport.ofValue, item?_eq_fetch, bind_eq_ok_iff, atMost_eq_ok_iff,
      FitsReport, fields, List.zipIdx, List.forall_mem_cons, ← fetch_eq_ok_iff readBy_texts,
      ← fetch_eq_ok_iff readBy_ports]
    constructor
    · rintro ⟨_, instances, hinstances, ports, hports, _, hlength, -⟩
      exact ⟨hlength, ⟨instances, hinstances⟩, ⟨ports, hports⟩, by simp⟩
    · rintro ⟨hlength, ⟨instances, hinstances⟩, ⟨ports, hports⟩, -⟩
      exact ⟨_, instances, hinstances, ports, hports, (), hlength, rfl⟩
  | _ => simp [SwarmPortsReport.ofValue, FitsReport]

end TermSync.Wire

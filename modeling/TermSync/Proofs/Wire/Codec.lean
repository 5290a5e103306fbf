import TermSync.Proofs.Json.Trees
import TermSync.Wire.Inbound
import TermSync.Wire.Outbound

/-!
# Frames, written and read

A frame is read back as it was written if each of its arguments is. Strings are, whatever their
characters, and so are integers of at most 64 bits; a frame of the client holds nothing else.

Main statements: `Envelope.decode?_encode` and `Outbound.decode_encode`.
-/

namespace TermSync.Json

/-- Whether a value is found again in its own text, nested no deeper than `depth`. -/
def Value.Survives (depth : Nat) (v : Value) : Prop :=
  ∃ n, v.toNode? = some n ∧ n.toValue? depth = some v

theorem survives_text (depth : Nat) (s : String) : (Value.text s).Survives depth :=
  ⟨.text (some s), rfl, rfl⟩

theorem survives_integer (depth : Nat) {i : Int} (h : FitsWord i) :
    (Value.number (.integer i)).Survives depth := by
  refine ⟨.number (numeralOf i), rfl, ?_⟩
  rw [Node.toValue?, toNumber?_numeralOf h]
  rfl

/-- A list of values is found again if each of them is. -/
theorem survives_items {depth : Nat} {vs : List Value} (h : ∀ v ∈ vs, v.Survives depth) :
    ∃ ns, itemsToNodes? vs = some ns ∧ itemsToValues? depth ns = some vs := by
  induction vs with
  | nil => exact ⟨[], rfl, rfl⟩
  | cons v vs ih =>
    obtain ⟨⟨n, hn, hv⟩, hvs⟩ := List.forall_mem_cons.mp h
    obtain ⟨ns, hns, hrest⟩ := ih hvs
    exact ⟨n :: ns, by rw [itemsToNodes?, hn, hns], by rw [itemsToValues?, hv, hrest]⟩

end TermSync.Json

namespace TermSync.Wire

open Json (Node Value)
open Terminal (Geometry)

/-- A frame is read back as it was written. -/
theorem Envelope.decode?_encode {e : Envelope} (h : ∀ v ∈ e.args, v.Survives argumentDepth) :
    decode? e.encode = some e := by
  obtain ⟨ns, hns, hvs⟩ := Json.survives_items h
  have htree : e.toValue.toNode? =
      some (.object [(some "name", .text (some e.name)), (some "args", .array ns)]) := by
    simp [toValue, Value.toNode?, Json.membersToNodes?, hns]
  have hfields : Node.fields? fieldNames
      (.object [(some "name", .text (some e.name)), (some "args", .array ns)]) =
        some [some (.text (some e.name)), some (.array ns)] := rfl
  rw [decode?, encode, Json.ofText?_toText htree]
  simp [ofNode?, hfields, Node.text?, Node.fieldD, argumentsOfNode?, hvs]

/-- An unsigned integer of 16 bits fits 64. -/
private theorem fitsWord_ofNat (n : UInt16) : Json.FitsWord n.toNat := by
  have hn : n.toNat < 65536 := n.toNat_lt
  have hbound : 65536 ≤ Json.maxUnsigned := by decide
  unfold Json.FitsWord
  rw [if_neg (by omega)]
  omega

/-- The client sends strings and small integers only. -/
private theorem survives_args (e : Outbound) :
    ∀ v ∈ e.args, v.Survives Envelope.argumentDepth := by
  cases e with
  | terminalIn name data => simp [Outbound.args, Json.survives_text]
  | viewportResize g => simp [Outbound.args, Json.survives_integer, fitsWord_ofNat]
  | sessionClose => simp [Outbound.args]

/-- A dimension is read as the number that was written, without wrapping. -/
private theorem dimension_of_integer {args : List Value} {index : Nat} {n : UInt16}
    (h : args[index]? = some (.number (.integer n.toNat))) :
    Arguments.dimension args index = .ok n := by
  have hn : n.toNat < 65536 := n.toNat_lt
  have hget : Arguments.get args index = .ok (.number (.integer n.toNat)) := by
    rw [Arguments.get, h]
  have hwhole : Arguments.wholePart? (.number (.integer n.toNat)) = some n.toNat := by
    simp [Arguments.wholePart?]
  rw [Arguments.dimension, hget]
  simp only [bind, Except.bind, hwhole, if_pos hn, UInt16.ofNat_toNat]
  rfl

private theorem ofArguments_viewportResize (g : Geometry) :
    Inbound.ofArguments .viewportResize (Outbound.viewportResize g).args =
      .ok (.viewportResize g) := by
  have hcols : Arguments.dimension (Outbound.viewportResize g).args 0 = .ok g.cols :=
    dimension_of_integer rfl
  have hrows : Arguments.dimension (Outbound.viewportResize g).args 1 = .ok g.rows :=
    dimension_of_integer rfl
  rw [Inbound.ofArguments, hcols, hrows]
  rfl

/-- Whatever the client sends, in either version, is read back as it was written: every character
of a name and of typed input, and every viewport, also one without any cell. -/
theorem Outbound.decode_encode (v : Version) :
    (∀ e : Outbound, Envelope.decode? (e.encode v) = some (e.toEnvelope v)) ∧
    (∀ name data : String, (Envelope.decode? ((terminalIn name data).encode v)).map (·.args) =
      some [.text name, .text data]) ∧
    (∀ g : Geometry, Inbound.decode ((viewportResize g).encode v) = .ok (.viewportResize g)) := by
  have hread : ∀ e : Outbound, Envelope.decode? (e.encode v) = some (e.toEnvelope v) :=
    fun e => Envelope.decode?_encode (survives_args e)
  refine ⟨hread, fun name data => ?_, fun g => ?_⟩
  · rw [hread]
    rfl
  · have hkind : EventKind.ofName? ((viewportResize g).name v) = some .viewportResize := by
      cases v <;> rfl
    rw [Inbound.decode, hread]
    simp only [Inbound.ofEnvelope, toEnvelope, hkind, ofArguments_viewportResize]

end TermSync.Wire

import TermSync.Proofs.Json.Trees
import TermSync.Roster.Instance

/-!
# Records, written and read

A record is written without the fields that it does not carry and with each of the others under a
name of its own. So each name is looked up in vain or finds one text, and the record is read as it
was written, whatever the texts are and whichever of them are there.

Main statements: `Node.fields?_textNodes`, `Record.ofText?_toText` and `Record.preserved`.
-/

namespace TermSync.Json

/-! ## Objects of texts -/

/-- The members of an object that has the texts that there are. -/
def textMembers (fields : List (String × Option String)) : List (String × Value) :=
  fields.flatMap fun f => textMember f.1 f.2

/-- The tree of these members. -/
def textNodes : List (String × Option String) → List (Option String × Node)
  | [] => []
  | (_, none) :: fields => textNodes fields
  | (name, some s) :: fields => (some name, .text (some s)) :: textNodes fields

theorem membersToNodes?_textMembers (fields : List (String × Option String)) :
    membersToNodes? (textMembers fields) = some (textNodes fields) := by
  induction fields with
  | nil => rfl
  | cons f fields ih =>
    obtain ⟨name, o⟩ := f
    cases o with
    | none => exact ih
    | some s =>
      have hcons : textMembers ((name, some s) :: fields) =
          (name, .text s) :: textMembers fields := rfl
      rw [hcons, membersToNodes?, Value.toNode?, ih]
      rfl

/-- Every member has a name. -/
theorem isSome_of_mem_textNodes {fields : List (String × Option String)} :
    ∀ m ∈ textNodes fields, m.1.isSome = true := by
  induction fields with
  | nil => simp [textNodes]
  | cons f fields ih =>
    obtain ⟨name, o⟩ := f
    cases o with
    | none => exact ih
    | some s => exact List.forall_mem_cons.mpr ⟨rfl, ih⟩

namespace Node

/-- The tree of a text that may be missing. -/
def ofText (o : Option String) : Option Node := o.map fun s => .text (some s)

/-- A first field has a part in what a name finds exactly if it has this name. -/
private theorem valuesOf_textNodes_cons (name : String) (f : String × Option String)
    (fields : List (String × Option String)) :
    valuesOf name (textNodes (f :: fields)) =
      (if f.1 = name then (ofText f.2).toList else []) ++ valuesOf name (textNodes fields) := by
  obtain ⟨other, o⟩ := f
  cases o with
  | none => simp [textNodes, ofText]
  | some s => by_cases h : other = name <;> simp [textNodes, valuesOf, ofText, h]

private theorem valuesOf_textNodes_of_notMem {fields : List (String × Option String)}
    {name : String} (h : name ∉ fields.map Prod.fst) : valuesOf name (textNodes fields) = [] := by
  induction fields with
  | nil => rfl
  | cons f fields ih =>
    rw [List.map_cons, List.mem_cons, not_or] at h
    rw [valuesOf_textNodes_cons, if_neg (Ne.symm h.1), List.nil_append, ih h.2]

private theorem valuesOf_textNodes {fields : List (String × Option String)}
    (h : (fields.map Prod.fst).Nodup) {f : String × Option String} (hf : f ∈ fields) :
    valuesOf f.1 (textNodes fields) = (ofText f.2).toList := by
  induction fields with
  | nil => cases hf
  | cons g fields ih =>
    obtain ⟨hnew, hnodup⟩ := List.nodup_cons.mp h
    rw [valuesOf_textNodes_cons]
    rcases List.mem_cons.mp hf with rfl | hf
    · rw [if_pos rfl, valuesOf_textNodes_of_notMem hnew, List.append_nil]
    · have hne : g.1 ≠ f.1 := fun heq => hnew (heq ▸ List.mem_map_of_mem hf)
      rw [if_neg hne, List.nil_append, ih hnodup hf]

/-- A name finds its text if there is one, and nothing otherwise. -/
theorem field?_textNodes {fields : List (String × Option String)}
    (h : (fields.map Prod.fst).Nodup) {f : String × Option String} (hf : f ∈ fields) :
    field? (textNodes fields) f.1 = some (ofText f.2) := by
  rw [field?, valuesOf_textNodes h hf]
  cases ofText f.2 with
  | none => rfl
  | some v => rfl

private theorem mapM_of_forall {f : α → Option β} {g : α → β} {as : List α}
    (h : ∀ a ∈ as, f a = some (g a)) : as.mapM f = some (as.map g) := by
  induction as with
  | nil => rfl
  | cons a as ih =>
    obtain ⟨ha, has⟩ := List.forall_mem_cons.mp h
    rw [List.mapM_cons, ha, ih has]
    rfl

/-- Fields with names of their own are found again, each as it was. -/
theorem fields?_textNodes {fields : List (String × Option String)}
    (h : (fields.map Prod.fst).Nodup) :
    fields? (fields.map Prod.fst) (.object (textNodes fields)) =
      some (fields.map fun f => ofText f.2) := by
  have hnamed : (textNodes fields).all (fun m => m.1.isSome) = true :=
    List.all_eq_true.mpr isSome_of_mem_textNodes
  rw [fields?, if_pos hnamed, List.mapM_map]
  exact mapM_of_forall fun f hf => field?_textNodes h hf

/-- A text that may be missing is read as it was. -/
theorem fieldD_ofText (o : Option String) :
    fieldD (nullable? text?) none (ofText o) = some o := by
  cases o with
  | none => rfl
  | some s => rfl

end Node
end TermSync.Json

namespace TermSync.Roster

open Json (Node)

namespace Record

/-- The fields of a record under their names. The name is always there. -/
def fields (r : Record) : List (String × Option String) :=
  [("name", some r.name), ("ip", r.ip), ("hostname", r.hostname), ("proxy_host", r.proxyHost),
    ("session_id", r.sessionId), ("image", r.image), ("type", r.kind)]

theorem toValue_eq (r : Record) : r.toValue = .object (Json.textMembers r.fields) := by
  simp [toValue, Json.textMembers, fields, Json.textMember]

/-- No two fields have one name. -/
theorem nodup_fieldNames : fieldNames.Nodup := by decide

/-- A record is read from its tree. -/
theorem ofNode?_textNodes (r : Record) : ofNode? (.object (Json.textNodes r.fields)) = some r := by
  have hfields : Node.fields? fieldNames (.object (Json.textNodes r.fields)) =
      some (r.fields.map fun f => Node.ofText f.2) :=
    Node.fields?_textNodes (show (r.fields.map Prod.fst).Nodup from nodup_fieldNames)
  have hname : Node.fieldD Node.text? "" (Node.ofText (some r.name)) = some r.name := rfl
  rw [ofNode?, hfields]
  simp [fields, Node.fieldD_ofText, hname]

/-- A record is read from its text. -/
theorem ofText?_toText (r : Record) : ofText? r.toText = some r := by
  have htree : r.toValue.toNode? = some (.object (Json.textNodes r.fields)) := by
    rw [toValue_eq, Json.Value.toNode?, Json.membersToNodes?_textMembers]
    rfl
  rw [ofText?, toText, Json.ofText?_toText htree]
  exact ofNode?_textNodes r

/-- A record is kept as it is, whatever its texts are and whichever of them are there: in its JSON
text, in an instance that is made of it, and when an instance takes in what is known about it. -/
theorem preserved :
    (∀ r : Record, ofText? r.toText = some r) ∧
    (∀ r : Record, (Instance.ofRecord r).toRecord = r) ∧
    (∀ i : Instance, i.absorb i.toRecord = i) :=
  ⟨ofText?_toText, Instance.toRecord_ofRecord, Instance.absorb_toRecord⟩

end Record
end TermSync.Roster

import TermSync.Roster.Basic

/-!
# What the roster's operations change

For each operation, which instance is found under a name afterwards, what the display order is, and
which instance is selected. Proofs about a session use these laws and open no operation.
-/

namespace TermSync.Roster

open Terminal (Call Geometry)
open Text (Bytes)

variable (r : Roster)

/-- There is an instance with a name exactly when one is found. -/
theorem contains_eq (name : String) : r.contains name = (r.get? name).isSome := rfl

theorem contains_of_get? {r : Roster} {name : String} {i : Instance} (h : r.get? name = some i) :
    r.contains name = true := by
  rw [contains_eq, h]; rfl

theorem contains_eq_false_iff {r : Roster} {name : String} :
    r.contains name = false ↔ r.get? name = none := by
  rw [contains_eq, Option.isSome_eq_false_iff, Option.isNone_iff_eq_none]

/-! ## Changes of one instance -/

theorem get?_update (name other : String) (f : Instance → Instance) :
    (r.update name f).get? other = if other = name then (r.get? name).map f else r.get? other :=
  Table.get?_modify r.entries name other f

@[simp] theorem selected_update (name : String) (f : Instance → Instance) :
    (r.update name f).selected = r.selected := rfl

/-- A change keeps each name that had an instance, and brings none. -/
theorem contains_update (name other : String) (f : Instance → Instance) :
    (r.update name f).contains other = r.contains other := by
  rw [contains_eq, contains_eq, get?_update]
  split
  · next h => subst h; cases r.get? other <;> rfl
  · rfl

/-! ## Records -/

/-- The instance that a record leads to: a merged one, or a new one. -/
def learned (record : Record) : Instance :=
  match r.get? record.name with
  | some i => i.merge record
  | none => Instance.ofRecord record

theorem get?_upsert (record : Record) (name : String) :
    (r.upsert record).get? name =
      if name = record.name then some (r.learned record) else r.get? name := by
  unfold upsert learned
  cases h : r.get? record.name with
  | some i => exact Table.get?_insert r.entries record.name name (i.merge record)
  | none => exact Table.get?_insert r.entries record.name name (Instance.ofRecord record)

theorem get?_upsert_self (record : Record) :
    (r.upsert record).get? record.name = some (r.learned record) := by
  rw [get?_upsert, if_pos rfl]

theorem order_upsert (record : Record) :
    (r.upsert record).order =
      if r.contains record.name then r.order else r.order ++ [record.name] := by
  rw [contains_eq]
  unfold upsert
  cases h : r.get? record.name <;> simp

theorem holders_upsert (record : Record) : (r.upsert record).holders = r.holdersAfter record := by
  unfold upsert
  cases r.get? record.name <;> rfl

@[simp] theorem selected_upsert (record : Record) : (r.upsert record).selected = r.selected := by
  unfold upsert
  cases r.get? record.name <;> rfl

theorem contains_upsert (record : Record) (name : String) :
    (r.upsert record).contains name = (r.contains name || name == record.name) := by
  rw [contains_eq, contains_eq, get?_upsert]
  by_cases h : name = record.name <;> simp [h]

/-- What a placeholder becomes part of, or is. -/
theorem get?_insertPlaceholder (key name : String) :
    (r.insertPlaceholder key).get? name =
      if name = key then some { r.learned (Record.named key) with provisional := true }
      else r.get? name := by
  unfold insertPlaceholder
  rw [get?_update, get?_upsert, get?_upsert]
  by_cases h : name = key
  · simp [h, Record.named]
  · simp [h, Record.named]

theorem order_insertPlaceholder (key : String) :
    (r.insertPlaceholder key).order = if r.contains key then r.order else r.order ++ [key] :=
  order_upsert r (Record.named key)

@[simp] theorem selected_insertPlaceholder (key : String) :
    (r.insertPlaceholder key).selected = r.selected :=
  selected_upsert r (Record.named key)

/-- The instance that a record leads to goes by the record's name if the one found there does. -/
theorem name_learned (record : Record)
    (h : ∀ i, r.get? record.name = some i → i.name = record.name) :
    (r.learned record).name = record.name := by
  unfold learned
  cases hg : r.get? record.name with
  | some i => exact h i hg
  | none => rfl

/-- A host name that a record carries wins; otherwise the instance keeps the one that it has. -/
theorem hostname_learned (record : Record) :
    (r.learned record).hostname =
      (record.hostname <|> (r.get? record.name).bind Instance.hostname) := by
  unfold learned
  cases r.get? record.name with
  | some i => rfl
  | none => rfl

/-- A new instance has nothing on its screen, no input and no timer; a merge touches none of
them. -/
theorem screen_learned (record : Record) :
    (r.learned record).screen = ((r.get? record.name).map Instance.screen).getD {} := by
  unfold learned
  cases r.get? record.name <;> rfl

/-- A record confirms its instance. -/
theorem provisional_learned (record : Record) : (r.learned record).provisional = false := by
  unfold learned
  cases r.get? record.name <;> rfl

/-! ## Removal -/

/-- An instance is taken out exactly when it is there. -/
theorem remove?_eq_none_iff (name : String) : r.remove? name = none ↔ r.get? name = none := by
  unfold remove?
  cases r.get? name <;> simp

/-- What is left after a removal, and what was done to the instance taken out. -/
theorem remove?_eq_some {r : Roster} {name : String} {x : Removal} (h : r.remove? name = some x) :
    ∃ i, r.get? name = some i ∧ x.calls = i.release.2 ∧
      x.rest.entries = r.entries.erase name ∧
      x.rest.order = r.order.filter (fun n => n != name) ∧
      x.rest.selected = (if r.selected = some name then x.rest.order.head? else r.selected) ∧
      x.rest.holders =
        match i.hostname with
        | some host => { r with entries := r.entries.erase name }.giveUp host name
        | none => r.holders := by
  unfold remove? at h
  split at h
  · cases h
  · next i hi =>
    cases h
    exact ⟨i, hi, rfl, rfl, rfl, rfl, rfl⟩

theorem get?_rest {r : Roster} {name : String} {x : Removal} (h : r.remove? name = some x)
    (other : String) : x.rest.get? other = if other = name then none else r.get? other := by
  obtain ⟨i, -, -, he, -⟩ := remove?_eq_some h
  rw [get?, he]
  exact Table.get?_erase r.entries name other

/-- The roster after an instance was taken out, if it was there. -/
def without (name : String) : Roster := ((r.remove? name).map Removal.rest).getD r

theorem without_of_none {r : Roster} {name : String} (h : r.remove? name = none) :
    r.without name = r := by
  rw [without, h]
  rfl

theorem without_of_some {r : Roster} {name : String} {x : Removal} (h : r.remove? name = some x) :
    r.without name = x.rest := by
  rw [without, h]
  rfl

theorem get?_without (name other : String) :
    (r.without name).get? other = if other = name then none else r.get? other := by
  cases hx : r.remove? name with
  | none =>
    rw [without_of_none hx]
    split
    · next he => rw [he, (remove?_eq_none_iff r name).mp hx]
    · rfl
  | some x => rw [without_of_some hx, get?_rest hx]

/-- The selection moves only if the selected instance is taken out. -/
theorem selected_without {r : Roster} {name : String} (h : r.selected ≠ some name) :
    (r.without name).selected = r.selected := by
  cases hx : r.remove? name with
  | none => rw [without_of_none hx]
  | some x =>
    obtain ⟨-, -, -, -, -, hs, -⟩ := remove?_eq_some hx
    rw [without_of_some hx, hs, if_neg h]

/-! ## Output and geometry -/

/-- The roster in which output finds its instance. -/
def announced (name : String) : Roster :=
  if r.contains name then r else r.upsert (Record.named name)

theorem get?_announced (name other : String) :
    (r.announced name).get? other =
      if other = name then some ((r.get? name).getD (Instance.ofRecord (Record.named name)))
      else r.get? other := by
  unfold announced
  rw [contains_eq]
  cases h : r.get? name with
  | some i =>
    by_cases ho : other = name
    · simp [ho, h]
    · simp [ho]
  | none =>
    rw [Option.isSome_none, if_neg (by decide), get?_upsert]
    have hl : r.learned (Record.named name) = Instance.ofRecord (Record.named name) := by
      unfold learned
      rw [show (Record.named name).name = name from rfl, h]
    rw [hl]
    rfl

/-- Output goes to the screen of its instance, which is there or comes with it. -/
theorem route_eq (name : String) (data : Bytes) :
    r.route name data =
      let i := (r.get? name).getD (Instance.ofRecord (Record.named name))
      ((r.announced name).update name fun j => { j with screen := (i.screen.deliver data).1 },
        (i.screen.deliver data).2) := by
  have hg := get?_announced r name name
  rw [if_pos rfl] at hg
  have h : r.route name data =
      match (r.announced name).get? name with
      | some i =>
        ((r.announced name).update name fun j => { j with screen := (i.screen.deliver data).1 },
          (i.screen.deliver data).2)
      | none => (r.announced name, []) := rfl
  rw [h, hg]

theorem get?_route (name other : String) (data : Bytes) :
    (r.route name data).1.get? other =
      if other = name then
        let i := (r.get? name).getD (Instance.ofRecord (Record.named name))
        some { i with screen := (i.screen.deliver data).1 }
      else r.get? other := by
  rw [route_eq]
  simp only [get?_update, get?_announced, if_pos]
  by_cases h : other = name
  · simp [h]
  · simp [h]

theorem order_announced (name : String) :
    (r.announced name).order = if r.contains name then r.order else r.order ++ [name] := by
  unfold announced
  cases h : r.contains name with
  | true => rfl
  | false =>
    have hn : r.contains (Record.named name).name = false := h
    rw [if_neg (by decide), order_upsert, hn]
    rfl

theorem order_route (name : String) (data : Bytes) :
    (r.route name data).1.order = if r.contains name then r.order else r.order ++ [name] := by
  rw [route_eq]
  exact order_announced r name

@[simp] theorem selected_route (name : String) (data : Bytes) :
    (r.route name data).1.selected = r.selected := by
  rw [route_eq]
  simp only [selected_update, announced]
  split
  · rfl
  · exact selected_upsert r (Record.named name)

theorem get?_resizeAll (g : Geometry) (name : String) :
    (r.resizeAll g).1.get? name =
      (r.get? name).map fun i => { i with screen := (i.screen.resize g).1 } :=
  Table.get?_map r.entries _ name

theorem get?_moveTo (moment : Nat) (name : String) :
    (r.moveTo moment).get? name = (r.get? name).map fun i => i.moveTo moment :=
  Table.get?_map r.entries _ name

end TermSync.Roster

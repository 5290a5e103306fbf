import TermSync.Proofs.Roster.Lookup
import TermSync.Proofs.Terminal.Screen

/-!
# Changes of the roster that come to the same

The laws of lookup tell two rosters apart only by what is found in them. Here rosters are equal row
by row: a change that finds nothing to change leaves every row as it is, and two changes that do not
meet can be made in any order.

Main statements: `upsert_eq_self` and `upsert_upsert` (a record that is known already changes
nothing), `update_upsert` (a record and a change of what no record speaks of).
-/

namespace TermSync.Roster

open Terminal (Geometry Screen)

/-! ## Rows -/

namespace Table

variable {α : Type} {t : Table α} {name other : String}

private theorem eq_of_rows {t u : Table α} (h : t.rows = u.rows) : t = u := by
  cases t
  cases u
  cases h
  rfl

private theorem insert_of_some {old : α} (h : t.get? name = some old) (value : α) :
    t.insert name value = t.modify name fun _ => value := by
  unfold insert
  split
  · rfl
  · next hn =>
    rw [h] at hn
    cases hn

private theorem rows_insert_of_none (h : t.get? name = none) (value : α) :
    (t.insert name value).rows = t.rows ++ [(name, value)] := by
  unfold insert
  split
  · next hs =>
    rw [h] at hs
    cases hs
  · rfl

/-- Two changes that agree on the value found make the same of it. -/
theorem modify_congr {f g : α → α} (h : ∀ v, t.get? name = some v → f v = g v) :
    t.modify name f = t.modify name g := by
  apply eq_of_rows
  apply List.map_congr_left
  rintro ⟨n, v⟩ hr
  dsimp only
  split
  · next hn =>
    subst hn
    rw [h v ((mem_rows_iff t n v).mp hr)]
  · rfl

/-- A change that changes nothing about the value found changes nothing. -/
theorem modify_eq_self {f : α → α} (h : ∀ v, t.get? name = some v → f v = v) :
    t.modify name f = t := by
  rw [modify_congr (g := id) h]
  apply eq_of_rows
  simp [modify]

/-- Changes under two names can be made in any order. -/
theorem modify_modify_comm (hne : other ≠ name) (f g : α → α) :
    (t.modify name f).modify other g = (t.modify other g).modify name f := by
  apply eq_of_rows
  simp only [modify, List.map_map]
  apply List.map_congr_left
  rintro ⟨n, v⟩ -
  by_cases hn : n = name
  · simp [hn, Ne.symm hne]
  · by_cases ho : n = other
    · simp [ho, hne]
    · simp [hn, ho]

/-- To put in the value that is there changes nothing. -/
theorem insert_eq_self {value : α} (h : t.get? name = some value) : t.insert name value = t := by
  rw [insert_of_some h]
  apply modify_eq_self
  intro v hv
  exact Option.some.inj (h.symm.trans hv)

/-- What is put under one name does not meet a change under another. -/
theorem insert_modify_comm (hne : other ≠ name) (f : α → α) (value : α) :
    (t.modify name f).insert other value = (t.insert other value).modify name f := by
  have hg : (t.modify name f).get? other = t.get? other := by rw [get?_modify, if_neg hne]
  cases h : t.get? other with
  | some old => rw [insert_of_some (hg.trans h), insert_of_some h, modify_modify_comm hne]
  | none =>
    apply eq_of_rows
    rw [rows_insert_of_none (hg.trans h)]
    simp only [modify, rows_insert_of_none h, List.map_append, List.map_cons, List.map_nil]
    rw [if_neg hne]

/-- A change of the value found, and what it becomes then, are one change. -/
theorem insert_modify_self {old : α} (h : t.get? name = some old) (f : α → α) (value : α) :
    (t.modify name f).insert name (f value) = (t.insert name value).modify name f := by
  have hg : (t.modify name f).get? name = some (f old) := by
    rw [get?_modify, if_pos rfl, h, Option.map_some]
  rw [insert_of_some hg, insert_of_some h]
  apply eq_of_rows
  simp only [modify, List.map_map]
  apply List.map_congr_left
  rintro ⟨n, v⟩ -
  by_cases hn : n = name <;> simp [hn]

/-- A change of every value that changes nothing about any of them changes nothing. -/
theorem map_eq_self {f : α → α} (h : ∀ n v, t.get? n = some v → f v = v) : t.map f = t := by
  apply eq_of_rows
  have hrows : ∀ r ∈ t.rows, (r.1, f r.2) = r := by
    rintro ⟨n, v⟩ hr
    rw [h n v ((mem_rows_iff t n v).mp hr)]
  exact (List.map_congr_left hrows).trans (List.map_id _)

end Table

/-! ## Changes that change nothing -/

variable {r : Roster} {record : Record} {name : String}

/-- A change that changes nothing about the instance found changes nothing. -/
theorem update_eq_self {f : Instance → Instance} (h : ∀ i, r.get? name = some i → f i = i) :
    r.update name f = r := by
  rw [update, Table.modify_eq_self h]

theorem update_congr {f g : Instance → Instance} (h : ∀ i, r.get? name = some i → f i = g i) :
    r.update name f = r.update name g := by
  rw [update, Table.modify_congr h, update]

/-- A geometry that every screen has taken already changes nothing, and nothing is drawn. -/
theorem resizeAll_resizeAll (r : Roster) (g : Geometry) :
    ((r.resizeAll g).1.resizeAll g).1 = (r.resizeAll g).1 ∧
      ∀ c ∈ ((r.resizeAll g).1.resizeAll g).2, c.action = .resize g := by
  let entries := (r.resizeAll g).1.entries
  have htaken : ∀ n i, entries.get? n = some i →
      ∃ j : Instance, i = { j with screen := (j.screen.resize g).1 } := by
    intro n i hi
    have hm := (get?_resizeAll r g n).symm.trans hi
    obtain ⟨j, -, rfl⟩ := Option.map_eq_some_iff.mp hm
    exact ⟨j, rfl⟩
  constructor
  · have hentries : entries.map (fun i => { i with screen := (i.screen.resize g).1 }) =
        entries := by
      apply Table.map_eq_self
      intro n i hi
      obtain ⟨j, rfl⟩ := htaken n i hi
      simp only [Screen.resize_resize]
    exact congrArg (fun entries => { (r.resizeAll g).1 with entries }) hentries
  · intro c hc
    obtain ⟨i, hi, hc⟩ := List.mem_flatMap.mp hc
    obtain ⟨n, hn⟩ := (Table.mem_values_iff entries i).mp hi
    obtain ⟨j, rfl⟩ := htaken n i hn
    simp only [Screen.resize_resize, Option.mem_toList, Option.map_eq_some_iff] at hc
    obtain ⟨w, -, rfl⟩ := hc
    rfl

/-- All that a record tells is known: its instance is there, confirmed, and the record adds nothing
to it; and the host name that it carries, if it carries one, belongs to its instance. -/
structure Knows (r : Roster) (record : Record) : Prop where
  merged : ∃ i, r.get? record.name = some i ∧ i.merge record = i
  held : ∀ host, record.hostname = some host → r.holders.get? host = some record.name

/-- A record that is known already changes nothing. -/
theorem upsert_eq_self (h : r.Knows record) : r.upsert record = r := by
  obtain ⟨i, hi, hm⟩ := h.merged
  have hholders : r.holdersAfter record = r.holders := by
    unfold holdersAfter
    cases hr : record.hostname with
    | none => rfl
    | some host =>
      have hown : i.hostname = some host := by
        rw [← hm]
        simp [Instance.merge, Instance.absorb, hr]
      simp only [hi, Option.bind_some, hown, if_true]
      exact Table.insert_eq_self (h.held host hr)
  simp only [upsert, hi, hm, hholders, Table.insert_eq_self hi]

/-- A record is known once it was merged. -/
theorem knows_upsert (r : Roster) (record : Record) : (r.upsert record).Knows record where
  merged := by
    refine ⟨r.learned record, get?_upsert_self r record, ?_⟩
    unfold learned
    cases r.get? record.name with
    | some i => rw [Instance.merge_merge, Record.merge_self]
    | none =>
      rw [Instance.merge_ofRecord, Record.merge_self]
      rfl
  held host hr := by
    rw [holders_upsert]
    unfold holdersAfter
    rw [hr]
    exact (Table.get?_insert _ host host record.name).trans (if_pos rfl)

/-- The second of two equal records changes nothing. -/
theorem upsert_upsert (r : Roster) (record : Record) :
    (r.upsert record).upsert record = r.upsert record :=
  upsert_eq_self (knows_upsert r record)

/-! ## Changes that can be made in any order -/

/-- The selection and a record do not meet. -/
theorem select_upsert (r : Roster) (record : Record) (selected : Option String) :
    { r with selected }.upsert record = { r.upsert record with selected } := by
  simp only [upsert]
  have hg : ({ r with selected } : Roster).get? record.name = r.get? record.name := rfl
  rw [hg]
  cases r.get? record.name <;> rfl

private theorem holdersAfter_update (r : Roster) (record : Record) {f : Instance → Instance}
    (hf : ∀ i, (f i).hostname = i.hostname) :
    (r.update name f).holdersAfter record = r.holdersAfter record := by
  have hkept (n : String) : ((r.update name f).get? n).map Instance.hostname =
      (r.get? n).map Instance.hostname := by
    rw [get?_update]
    split
    · next hn =>
      subst hn
      cases r.get? n with
      | none => rfl
      | some i => exact congrArg some (hf i)
    · rfl
  have hown (n : String) : ((r.update name f).get? n).bind Instance.hostname =
      (r.get? n).bind Instance.hostname := by
    simpa only [Option.bind_map, Function.id_comp] using congrArg (Option.bind · id) (hkept n)
  have hbears (host n : String) : ((r.update name f).get? n).any (·.hostname == some host) =
      (r.get? n).any (·.hostname == some host) := by
    simpa only [Option.any_map] using congrArg (Option.any (· == some host)) (hkept n)
  have hgive (host n : String) : (r.update name f).giveUp host n = r.giveUp host n := by
    simp only [giveUp, heir?, hbears]
    rfl
  simp only [holdersAfter, hown, hgive]
  rfl

/-- A record and a change in what no record speaks of do not meet, if the instance that is changed
is there. -/
theorem update_upsert {i : Instance} (hi : r.get? name = some i) {f : Instance → Instance}
    (hh : ∀ i, (f i).hostname = i.hostname) (hf : ∀ i, (f i).merge record = f (i.merge record)) :
    (r.update name f).upsert record = (r.upsert record).update name f := by
  have hholders : (r.update name f).holdersAfter record = r.holdersAfter record :=
    holdersAfter_update r record hh
  by_cases hn : record.name = name
  · subst hn
    have hg : (r.update record.name f).get? record.name = some (f i) := by
      rw [get?_update, if_pos rfl, hi, Option.map_some]
    simp only [upsert, hg, hi, hholders, hf]
    simp only [update, Table.insert_modify_self hi]
  · have hg : (r.update name f).get? record.name = r.get? record.name := by
      rw [get?_update, if_neg hn]
    simp only [upsert, hg, hholders]
    cases r.get? record.name <;> simp only [update, Table.insert_modify_comm hn]

end TermSync.Roster

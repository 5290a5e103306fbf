/-!
# Tables

Values under names, at most one under each. A table keeps its rows in the order in which their
names came in. Main laws: `get?_insert`, `get?_erase`, `get?_modify` and `get?_map` (what is found
after each change), `mem_rows_iff` (the rows are what can be found).
-/

namespace TermSync.Roster

/-- Values under names. -/
structure Table (α : Type) where
  rows : List (String × α) := []
  nodup : (rows.map Prod.fst).Nodup := by exact List.nodup_nil
deriving DecidableEq, Repr

namespace Table

variable {α β : Type}

/-- The value under a name. -/
def get? (t : Table α) (name : String) : Option α := t.rows.lookup name

/-- Whether there is a value under a name. -/
def contains (t : Table α) (name : String) : Bool := (t.get? name).isSome

/-- The names that have values. -/
def keys (t : Table α) : List String := t.rows.map Prod.fst

/-- The values. -/
def values (t : Table α) : List α := t.rows.map Prod.snd

/-- The number of values. -/
def size (t : Table α) : Nat := t.rows.length

private theorem lookup_row (n name : String) (v : α) (rows : List (String × α)) :
    List.lookup name ((n, v) :: rows) = if name = n then some v else rows.lookup name := by
  by_cases h : name = n
  · simp [h]
  · simp [List.lookup_cons, beq_false_of_ne h, h]

private theorem lookup_eq_none_iff (rows : List (String × α)) (name : String) :
    rows.lookup name = none ↔ name ∉ rows.map Prod.fst := by
  induction rows with
  | nil => simp
  | cons r rows ih =>
    obtain ⟨n, v⟩ := r
    by_cases h : name = n
    · simp [h]
    · simpa [lookup_row, h] using ih

/-- Change the value under a name, if there is one. -/
def modify (t : Table α) (name : String) (f : α → α) : Table α where
  rows := t.rows.map fun r => if r.1 = name then (r.1, f r.2) else r
  nodup := by
    have h : (t.rows.map fun r => if r.1 = name then (r.1, f r.2) else r).map Prod.fst =
        t.rows.map Prod.fst := by
      rw [List.map_map]
      exact List.map_congr_left fun r _ => by simp only [Function.comp]; split <;> rfl
    exact h ▸ t.nodup

/-- Change every value. -/
def map (t : Table α) (f : α → β) : Table β where
  rows := t.rows.map fun r => (r.1, f r.2)
  nodup := by
    have h : (t.rows.map fun r => (r.1, f r.2)).map Prod.fst = t.rows.map Prod.fst := by
      simp [List.map_map, Function.comp_def]
    exact h ▸ t.nodup

/-- Put a value under a name, in the place of the one that is there or else after all others. -/
def insert (t : Table α) (name : String) (value : α) : Table α :=
  match h : t.get? name with
  | some _ => t.modify name fun _ => value
  | none =>
    { rows := t.rows ++ [(name, value)]
      nodup := by
        rw [List.map_append, List.nodup_append]
        refine ⟨t.nodup, by simp, ?_⟩
        rintro a ha b hb rfl
        simp only [List.map_cons, List.map_nil, List.mem_singleton] at hb
        subst hb
        exact (lookup_eq_none_iff t.rows a).mp h ha }

/-- Take a name out, with its value. -/
def erase (t : Table α) (name : String) : Table α where
  rows := t.rows.filter fun r => r.1 != name
  nodup := t.nodup.sublist (List.filter_sublist.map Prod.fst)

@[simp] theorem get?_empty (name : String) : ({} : Table α).get? name = none := rfl

@[simp] theorem contains_iff (t : Table α) (name : String) :
    t.contains name = (t.get? name).isSome := rfl

/-- The rows are what can be found. -/
theorem mem_rows_iff (t : Table α) (name : String) (value : α) :
    (name, value) ∈ t.rows ↔ t.get? name = some value := by
  obtain ⟨rows, nodup⟩ := t
  simp only [get?]
  induction rows with
  | nil => simp
  | cons r rows ih =>
    obtain ⟨n, v⟩ := r
    simp only [List.map_cons, List.nodup_cons] at nodup
    by_cases h : name = n
    · subst h
      have hn : (name, value) ∉ rows := fun hm => nodup.1 (List.mem_map.mpr ⟨_, hm, rfl⟩)
      simp [hn, eq_comm]
    · simp [lookup_row, h, ih nodup.2]

/-- Around the row of a name stand the rows of other names. -/
theorem exists_rows_eq {t : Table α} {name : String} {value : α} (h : t.get? name = some value) :
    ∃ before later, t.rows = before ++ (name, value) :: later ∧
      ∀ r ∈ before ++ later, r.1 ≠ name ∧ t.get? r.1 = some r.2 := by
  obtain ⟨before, later, hs⟩ := List.append_of_mem ((mem_rows_iff t name value).mpr h)
  refine ⟨before, later, hs, fun r hr => ⟨fun he => ?_, ?_⟩⟩
  · have hn := t.nodup
    rw [hs, List.map_append, List.map_cons, List.nodup_append, List.nodup_cons] at hn
    obtain ⟨-, ⟨hlater, -⟩, hbefore⟩ := hn
    rcases List.mem_append.mp hr with hr | hr
    · exact hbefore r.1 (List.mem_map_of_mem hr) name List.mem_cons_self he
    · exact hlater (List.mem_map.mpr ⟨r, hr, he⟩)
  · rw [← mem_rows_iff, hs]
    rcases List.mem_append.mp hr with hr | hr
    · exact List.mem_append_left _ hr
    · exact List.mem_append_right _ (List.mem_cons_of_mem _ hr)

/-- The names that have values are those under which one is found. -/
theorem mem_keys_iff (t : Table α) (name : String) : name ∈ t.keys ↔ (t.get? name).isSome := by
  rw [Option.isSome_iff_ne_none, ne_eq, get?, lookup_eq_none_iff, Classical.not_not]
  rfl

/-- Every value is found under some name. -/
theorem mem_values_iff (t : Table α) (value : α) :
    value ∈ t.values ↔ ∃ name, t.get? name = some value := by
  simp only [values, List.mem_map, ← mem_rows_iff]
  constructor
  · rintro ⟨⟨n, v⟩, hr, rfl⟩
    exact ⟨n, hr⟩
  · rintro ⟨n, hr⟩
    exact ⟨(n, value), hr, rfl⟩

/-- A change of one value is seen under its name only. -/
theorem get?_modify (t : Table α) (name other : String) (f : α → α) :
    (t.modify name f).get? other = if other = name then (t.get? name).map f else t.get? other := by
  obtain ⟨rows, nodup⟩ := t
  simp only [get?, modify]
  clear nodup
  induction rows with
  | nil => simp
  | cons r rows ih =>
    obtain ⟨n, v⟩ := r
    by_cases h : n = name
    · subst h
      by_cases ho : other = n
      · simp [ho]
      · simpa [lookup_row, ho] using ih
    · by_cases ho : other = n
      · simp [ho, h]
      · simpa [lookup_row, ho, h, Ne.symm h] using ih

/-- A change of every value is seen everywhere. -/
theorem get?_map (t : Table α) (f : α → β) (name : String) :
    (t.map f).get? name = (t.get? name).map f := by
  obtain ⟨rows, nodup⟩ := t
  simp only [get?, map]
  clear nodup
  induction rows with
  | nil => rfl
  | cons r rows ih =>
    obtain ⟨n, v⟩ := r
    by_cases h : name = n
    · simp [h]
    · simpa [lookup_row, h] using ih

/-- What was put under a name is found there, and nothing else has changed. -/
theorem get?_insert (t : Table α) (name other : String) (value : α) :
    (t.insert name value).get? other = if other = name then some value else t.get? other := by
  unfold insert
  split
  · next old h => rw [get?_modify, h]; rfl
  · next h =>
    simp only [get?] at h ⊢
    rw [List.lookup_append, lookup_row]
    by_cases ho : other = name
    · simp [ho, h]
    · simp [ho]

/-- Nothing is found under a name that was taken out, and nothing else has changed. -/
theorem get?_erase (t : Table α) (name other : String) :
    (t.erase name).get? other = if other = name then none else t.get? other := by
  obtain ⟨rows, nodup⟩ := t
  simp only [get?, erase]
  clear nodup
  induction rows with
  | nil => simp
  | cons r rows ih =>
    obtain ⟨n, v⟩ := r
    by_cases h : n = name
    · subst h
      by_cases ho : other = n
      · simpa [ho] using ih
      · simpa [lookup_row, ho] using ih
    · by_cases ho : other = n
      · simp [ho, h]
      · simpa [lookup_row, ho, h] using ih

end Table
end TermSync.Roster

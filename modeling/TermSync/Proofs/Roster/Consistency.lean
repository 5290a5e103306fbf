import TermSync.Proofs.Roster.Lookup

/-!
# Consistency of the roster

The display order lists the instances, each once, under their own names; whoever holds a host name
is there and has it; and the selected name is in the display order. Every operation keeps this.
Main statement: `isConsistent_of_consistent` (the check that the roster offers then succeeds).
-/

namespace TermSync.Roster

open Terminal (Call Geometry)
open Text (Bytes)

/-- The display order, the index and the selection agree with the instances that are there. -/
structure Consistent (r : Roster) : Prop where
  /-- The display order lists no name twice. -/
  nodup : r.order.Nodup
  /-- The display order lists exactly the names that have an instance. -/
  mem_order : ∀ name, name ∈ r.order ↔ r.contains name = true
  /-- Each instance is kept under its own name. -/
  named : ∀ name i, r.get? name = some i → i.name = name
  /-- Whoever holds a host name is there, and has that host name. -/
  held : ∀ host name, r.holders.get? host = some name →
    ∃ i, r.get? name = some i ∧ i.hostname = some host
  /-- The selected name is in the display order. -/
  shown : ∀ name, r.selected = some name → name ∈ r.order

namespace Consistent

variable {r : Roster}

/-- A roster without anything in it is consistent. -/
theorem empty : Consistent {} where
  nodup := List.nodup_nil
  mem_order _ := by simp [contains, Table.get?]
  named _ _ h := by simp [get?] at h
  held _ _ h := by simp at h
  shown _ h := by cases h

/-- A name in the display order has an instance. -/
theorem exists_of_mem (h : r.Consistent) {name : String} (hn : name ∈ r.order) :
    ∃ i, r.get? name = some i :=
  Option.isSome_iff_exists.mp ((h.mem_order name).mp hn)

/-- What is found first in display order is found under its own name. -/
theorem get?_of_mem_instances (h : r.Consistent) {i : Instance} (hi : i ∈ r.instances) :
    r.get? i.name = some i := by
  obtain ⟨name, -, hg⟩ := List.mem_filterMap.mp hi
  rw [h.named name i hg]
  exact hg

theorem mem_instances_iff (h : r.Consistent) {i : Instance} :
    i ∈ r.instances ↔ r.get? i.name = some i := by
  refine ⟨h.get?_of_mem_instances, fun hi => ?_⟩
  exact List.mem_filterMap.mpr ⟨i.name, (h.mem_order _).mpr (contains_of_get? hi), hi⟩

/-- The instances go by the names of the display order. -/
theorem names_instances (h : r.Consistent) : r.instances.map Instance.name = r.order := by
  have hall : ∀ names : List String, (∀ n ∈ names, n ∈ r.order) →
      (names.filterMap r.get?).map Instance.name = names := by
    intro names hn
    induction names with
    | nil => rfl
    | cons n names ih =>
      obtain ⟨i, hi⟩ := h.exists_of_mem (hn n List.mem_cons_self)
      rw [List.filterMap_cons_some hi, List.map_cons, h.named n i hi,
        ih fun m hm => hn m (List.mem_cons_of_mem n hm)]
  exact hall r.order fun _ hm => hm

/-- To have other instances under the same names, with their names and host names, and another
selection out of the display order, is to be consistent still. -/
theorem of_frame (h : r.Consistent) {t : Roster} (ho : t.order = r.order)
    (hh : t.holders = r.holders) (hc : ∀ name, t.contains name = r.contains name)
    (hg : ∀ name i, t.get? name = some i →
      ∃ j, r.get? name = some j ∧ i.name = j.name ∧ i.hostname = j.hostname)
    (hs : ∀ name, t.selected = some name → name ∈ r.order) : t.Consistent where
  nodup := ho ▸ h.nodup
  mem_order name := by rw [ho, hc]; exact h.mem_order name
  named name i hi := by
    obtain ⟨j, hj, hn, -⟩ := hg name i hi
    exact hn.trans (h.named name j hj)
  held host name hl := by
    rw [hh] at hl
    obtain ⟨j, hj, hhost⟩ := h.held host name hl
    obtain ⟨i, hi⟩ := Option.isSome_iff_exists.mp ((hc name).trans (contains_of_get? hj))
    obtain ⟨j', hj', -, he⟩ := hg name i hi
    rw [hj] at hj'
    cases hj'
    exact ⟨i, hi, he.trans hhost⟩
  shown name hsel := ho ▸ hs name hsel

/-- To select another instance that is there is consistent. -/
theorem select (h : r.Consistent) {name : String} (hn : r.contains name = true) :
    Consistent { r with selected := some name } := by
  have hshown : ∀ n, some name = some n → n ∈ r.order := by
    intro n hs
    cases hs
    exact (h.mem_order name).mpr hn
  exact h.of_frame rfl rfl (fun _ => rfl) (fun _ i hi => ⟨i, hi, rfl, rfl⟩) hshown

/-- A change that leaves the name and the host name alone is consistent. -/
theorem update (h : r.Consistent) (name : String) {f : Instance → Instance}
    (hf : ∀ i, r.get? name = some i → (f i).name = i.name ∧ (f i).hostname = i.hostname) :
    (r.update name f).Consistent := by
  refine h.of_frame rfl rfl (fun other => contains_update r name other f) ?_
    fun n hs => h.shown n hs
  intro other i hi
  rw [get?_update] at hi
  split at hi
  · next he =>
    obtain ⟨j, hj, rfl⟩ := Option.map_eq_some_iff.mp hi
    exact ⟨j, he ▸ hj, (hf j hj).1, (hf j hj).2⟩
  · exact ⟨i, hi, rfl, rfl⟩

/-- A change of all instances that leaves names and host names alone is consistent. -/
theorem mapAll (h : r.Consistent) {f : Instance → Instance}
    (hf : ∀ i, (f i).name = i.name ∧ (f i).hostname = i.hostname) :
    Consistent { r with entries := r.entries.map f } := by
  refine h.of_frame rfl rfl ?_ ?_ fun n hs => h.shown n hs
  · intro name
    simp only [contains, Table.contains_iff, Table.get?_map, Option.isSome_map]
  · intro name i hi
    rw [get?, Table.get?_map] at hi
    obtain ⟨j, hj, rfl⟩ := Option.map_eq_some_iff.mp hi
    exact ⟨j, hj, hf j⟩

end Consistent

/-! ## The index of host names -/

/-- An heir is another instance that is there and has the host name. -/
theorem heir?_eq_some {r : Roster} {host name heir : String} (h : r.heir? host name = some heir) :
    heir ≠ name ∧ ∃ i, r.get? heir = some i ∧ i.hostname = some host := by
  have hp := List.find?_some h
  simp only [Bool.and_eq_true, bne_iff_ne, ne_eq, Option.any_eq_true, beq_iff_eq] at hp
  exact hp

/-- To give up a host name changes its entry only, and only for the one that holds it. -/
theorem get?_giveUp (r : Roster) (host name other : String) :
    (r.giveUp host name).get? other =
      if other = host ∧ r.holders.get? host = some name then r.heir? host name
      else r.holders.get? other := by
  unfold giveUp
  by_cases hh : r.holders.get? host = some name
  · simp only [hh, if_true, and_true]
    cases he : r.heir? host name with
    | some heir => exact Table.get?_insert r.holders host other heir
    | none => exact Table.get?_erase r.holders host other
  · simp [hh]

namespace Consistent

variable {r : Roster}

private theorem held_holdersAfter (h : r.Consistent) (record : Record) {host name : String}
    (hl : (r.holdersAfter record).get? host = some name) :
    (name = record.name ∧ (r.learned record).hostname = some host) ∨
      (name ≠ record.name ∧ ∃ i, r.get? name = some i ∧ i.hostname = some host) := by
  rw [hostname_learned]
  unfold holdersAfter at hl
  cases hr : record.hostname with
  | none =>
    rw [hr] at hl
    obtain ⟨i, hi, hhost⟩ := h.held host name hl
    by_cases hn : name = record.name
    · left
      rw [← hn, hi]
      exact ⟨rfl, by simpa using hhost⟩
    · exact .inr ⟨hn, i, hi, hhost⟩
  | some new =>
    rw [hr] at hl
    simp only [Table.get?_insert] at hl
    by_cases he : host = new
    · rw [if_pos he] at hl
      cases hl
      exact .inl ⟨rfl, by simp [he]⟩
    rw [if_neg he] at hl
    -- Of the entries under other host names none points at the record's instance any more.
    right
    cases ho : (r.get? record.name).bind Instance.hostname with
    | none =>
      rw [ho] at hl
      obtain ⟨i, hi, hhost⟩ := h.held host name hl
      refine ⟨?_, i, hi, hhost⟩
      rintro rfl
      rw [hi] at ho
      exact absurd (hhost.symm.trans ho) (by simp)
    | some old =>
      rw [ho] at hl
      by_cases hold : old = new
      · simp only [hold, if_true] at hl
        obtain ⟨i, hi, hhost⟩ := h.held host name hl
        refine ⟨?_, i, hi, hhost⟩
        rintro rfl
        rw [hi] at ho
        have : some host = some old := hhost.symm.trans ho
        exact he ((Option.some.inj this).trans hold)
      · simp only [hold, if_false, get?_giveUp] at hl
        split at hl
        · next hc =>
          obtain ⟨hne, i, hi, hhost⟩ := heir?_eq_some hl
          exact ⟨hne, i, hi, hc.1 ▸ hhost⟩
        · next hc =>
          obtain ⟨i, hi, hhost⟩ := h.held host name hl
          refine ⟨?_, i, hi, hhost⟩
          rintro rfl
          rw [hi] at ho
          have : host = old := Option.some.inj (hhost.symm.trans ho)
          exact hc ⟨this, this ▸ hl⟩

/-- A record keeps the roster consistent. -/
theorem upsert (h : r.Consistent) (record : Record) : (r.upsert record).Consistent where
  nodup := by
    rw [order_upsert]
    split
    · exact h.nodup
    · next hc =>
      rw [List.nodup_append]
      refine ⟨h.nodup, by simp, ?_⟩
      rintro a ha b hb rfl
      rw [List.mem_singleton] at hb
      exact hc (hb ▸ (h.mem_order a).mp ha)
  mem_order name := by
    rw [contains_upsert, Bool.or_eq_true, beq_iff_eq, ← h.mem_order name, order_upsert]
    split
    · next hc =>
      constructor
      · exact .inl
      · rintro (hm | rfl)
        · exact hm
        · exact (h.mem_order _).mpr hc
    · simp
  named name i hi := by
    rw [get?_upsert] at hi
    split at hi
    · next he =>
      cases hi
      rw [he]
      exact name_learned r record fun j hj => h.named record.name j hj
    · exact h.named name i hi
  held host name hl := by
    rw [holders_upsert] at hl
    rw [get?_upsert]
    rcases h.held_holdersAfter record hl with ⟨rfl, hhost⟩ | ⟨hn, i, hi, hhost⟩
    · exact ⟨_, if_pos rfl, hhost⟩
    · exact ⟨i, (if_neg hn).trans hi, hhost⟩
  shown name hs := by
    rw [selected_upsert] at hs
    have hm := h.shown name hs
    rw [order_upsert]
    split
    · exact hm
    · exact List.mem_append_left _ hm

/-- A placeholder keeps the roster consistent. -/
theorem insertPlaceholder (h : r.Consistent) (key : String) :
    (r.insertPlaceholder key).Consistent :=
  (h.upsert (Record.named key)).update key fun _ _ => ⟨rfl, rfl⟩

/-- A removal keeps the roster consistent. -/
theorem remove? (h : r.Consistent) {name : String} {x : Removal} (hx : r.remove? name = some x) :
    x.rest.Consistent := by
  obtain ⟨i, hi, -, -, ho, hs, hh⟩ := remove?_eq_some hx
  have hg := get?_rest hx
  constructor
  · exact ho ▸ h.nodup.filter _
  · intro other
    rw [ho, List.mem_filter, bne_iff_ne, h.mem_order, contains_eq, contains_eq, hg]
    by_cases hn : other = name <;> simp [hn]
  · intro other j hj
    rw [hg] at hj
    split at hj
    · cases hj
    · exact h.named other j hj
  · intro host other hl
    -- The one taken out held its own host name at most, and that went to an heir or was dropped.
    have hold : ∀ host other, r.holders.get? host = some other → other ≠ name →
        ∃ j, x.rest.get? other = some j ∧ j.hostname = some host := by
      intro host other hl hn
      obtain ⟨j, hj, hhost⟩ := h.held host other hl
      exact ⟨j, by rw [hg, if_neg hn, hj], hhost⟩
    have hown : r.holders.get? host = some name → i.hostname = some host := by
      intro hl
      obtain ⟨j, hj, hhost⟩ := h.held host name hl
      rw [hi] at hj
      cases hj
      exact hhost
    rw [hh] at hl
    cases hhost : i.hostname with
    | none =>
      rw [hhost] at hl
      apply hold host other hl
      rintro rfl
      rw [hown hl] at hhost
      cases hhost
    | some own =>
      rw [hhost] at hl
      simp only [get?_giveUp] at hl
      split at hl
      · next hc =>
        obtain ⟨hne, j, hj, hjh⟩ := heir?_eq_some hl
        have hj' := Table.get?_erase r.entries name other
        rw [if_neg hne] at hj'
        exact ⟨j, by rw [hg, if_neg hne]; exact hj'.symm.trans hj, hc.1 ▸ hjh⟩
      · next hc =>
        apply hold host other hl
        rintro rfl
        have he : some own = some host := hhost.symm.trans (hown hl)
        exact hc ⟨(Option.some.inj he).symm, Option.some.inj he ▸ hl⟩
  · intro other hsel
    rw [hs] at hsel
    split at hsel
    · exact List.mem_of_mem_head? hsel
    · next hn =>
      rw [ho, List.mem_filter, bne_iff_ne]
      exact ⟨h.shown other hsel, fun he => hn (he ▸ hsel)⟩

/-- Who is taken out leaves the display order, and nobody else moves. -/
theorem order_without (h : r.Consistent) (name : String) :
    (r.without name).order = r.order.filter fun n => n != name := by
  cases hx : r.remove? name with
  | none =>
    have hn : name ∉ r.order := by
      intro hm
      obtain ⟨i, hi⟩ := h.exists_of_mem hm
      rw [(remove?_eq_none_iff r name).mp hx] at hi
      cases hi
    rw [without_of_none hx]
    symm
    apply List.filter_eq_self.mpr
    intro n hm
    exact bne_iff_ne.mpr fun he => hn (he ▸ hm)
  | some x =>
    obtain ⟨-, -, -, -, ho, -⟩ := remove?_eq_some hx
    rw [without_of_some hx, ho]

/-- Output keeps the roster consistent. -/
theorem route (h : r.Consistent) (name : String) (data : Bytes) :
    (r.route name data).1.Consistent := by
  rw [route_eq]
  have ha : (r.announced name).Consistent := by
    unfold announced
    split
    · exact h
    · exact h.upsert (Record.named name)
  exact ha.update name fun _ _ => ⟨rfl, rfl⟩

/-- A geometry keeps the roster consistent. -/
theorem resizeAll (h : r.Consistent) (g : Geometry) : (r.resizeAll g).1.Consistent :=
  h.mapAll fun _ => ⟨rfl, rfl⟩

/-- Time keeps the roster consistent. -/
theorem moveTo (h : r.Consistent) (moment : Nat) : (r.moveTo moment).Consistent :=
  h.mapAll fun _ => ⟨rfl, rfl⟩

end Consistent

/-! ## The check -/

private theorem distinct_eq_true_iff (names : List String) :
    distinct names = true ↔ names.Nodup := by
  induction names with
  | nil => simp [distinct]
  | cons n ns ih => simp [distinct, ih]

/-- The check of a consistent roster succeeds. -/
theorem isConsistent_of_consistent {r : Roster} (h : r.Consistent) : r.isConsistent = true := by
  have hp : r.order.Perm r.entries.keys := by
    apply (List.perm_ext_iff_of_nodup h.nodup r.entries.nodup).mpr
    intro name
    rw [h.mem_order]
    exact (Table.mem_keys_iff r.entries name).symm
  simp only [isConsistent, Bool.and_eq_true, beq_iff_eq, List.all_eq_true, distinct_eq_true_iff]
  refine ⟨⟨⟨⟨h.nodup, ?_⟩, fun n hn => (h.mem_order n).mp hn⟩, ?_⟩, ?_⟩
  · rw [hp.length_eq, Table.keys, List.length_map]
    rfl
  · intro name hn
    obtain ⟨host, hl⟩ := (Table.mem_values_iff r.holders name).mp hn
    obtain ⟨i, hi, -⟩ := h.held host name hl
    exact contains_of_get? hi
  · cases hs : r.selected with
    | none => rfl
    | some name => simpa using h.shown name hs

end TermSync.Roster

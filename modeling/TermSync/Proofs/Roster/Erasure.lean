import TermSync.Proofs.Roster.Hostnames

/-!
# A roster without one of its instances

A placeholder that nothing has been heard about has no host name. So it matters to nothing but
itself: without it, the other instances would stand in the same order, the same would be known
about each of them, and the same ones would hold the host names. Every change that is about other
instances leaves it so.

What an instance holds on this side, its screen and the input typed into it, is left out of the
comparison, and so is the selection.

Main statements: `Ghost.upsert`, `Ghost.without`, `Ghost.update` (what changes of other instances
do to two such rosters) and `Ghost.vanish` (what is left when the placeholder is taken out).
-/

namespace TermSync.Roster

open Text (Bytes)

/-- What is known about an instance, without its terminal and the input typed into it. -/
def Instance.facts (i : Instance) : Instance :=
  { i with screen := {}, typed := [], flushTimer := none }

theorem Instance.hostname_of_facts {i j : Instance} (h : i.facts = j.facts) :
    i.hostname = j.hostname := by
  have hf (k : Instance) : k.facts.hostname = k.hostname := rfl
  rw [← hf, h, hf]

theorem Instance.provisional_of_facts {i j : Instance} (h : i.facts = j.facts) :
    i.provisional = j.provisional := by
  have hf (k : Instance) : k.facts.provisional = k.provisional := rfl
  rw [← hf, h, hf]

/-! ## Rosters with the same host names -/

/-- Two rosters have the same host names, held and borne by the same instances. -/
structure SameHosts (r t : Roster) : Prop where
  holders : t.holders = r.holders
  hostname : ∀ name, (t.get? name).bind Instance.hostname = (r.get? name).bind Instance.hostname
  bearers : ∀ host, t.bearers host = r.bearers host

namespace SameHosts

variable {r t : Roster}

private theorem bears_eq_hostname (r : Roster) (host name : String) :
    r.bears host name = ((r.get? name).bind Instance.hostname == some host) := by
  unfold bears
  cases r.get? name <;> rfl

/-- To have an instance less that has no host name makes no difference. -/
theorem of_filter {name : String} (hl : t.holders = r.holders)
    (ho : t.order = r.order.filter fun n => n != name)
    (h : ∀ n, (t.get? n).bind Instance.hostname = (r.get? n).bind Instance.hostname)
    (hn : (r.get? name).bind Instance.hostname = none) : r.SameHosts t where
  holders := hl
  hostname := h
  bearers host := by
    have hb : t.bears host = r.bears host := by
      funext n
      rw [bears_eq_hostname, bears_eq_hostname, h]
    rw [Roster.bearers, ho, hb, List.filter_filter, Roster.bearers]
    apply List.filter_congr
    intro n _
    by_cases he : n = name
    · rw [he, bears_eq_hostname, hn]
      rfl
    · rw [bne_iff_ne.mpr he, Bool.and_true]

theorem giveUp (h : r.SameHosts t) (host name : String) :
    t.giveUp host name = r.giveUp host name := by
  unfold Roster.giveUp
  rw [h.holders, heir?_eq, heir?_eq, h.bearers]

/-- A record does the same to the index of both. -/
theorem holdersAfter (h : r.SameHosts t) (record : Record) :
    t.holdersAfter record = r.holdersAfter record := by
  unfold Roster.holdersAfter
  simp only [h.holders, h.hostname, h.giveUp]

end SameHosts

/-! ## To take an instance out -/

/-- Who is taken out gives up the host name that it has. -/
theorem holders_without (r : Roster) (name : String) :
    (r.without name).holders =
      match (r.get? name).bind Instance.hostname with
      | some host => r.giveUp host name
      | none => r.holders := by
  cases hx : r.remove? name with
  | none =>
    rw [without_of_none hx, (remove?_eq_none_iff r name).mp hx]
    rfl
  | some x =>
    obtain ⟨i, hi, -, -, -, -, hh⟩ := remove?_eq_some hx
    rw [without_of_some hx, hh, hi, Option.bind_some]
    cases i.hostname with
    | none => rfl
    | some host =>
      simp only [giveUp]
      rw [heir?_erase]

/-! ## Rosters in which the same is known -/

/-- If the same is known under a name, there are instances in both rosters or in none. -/
private theorem cases_of_known {r t : Roster} {name : String}
    (h : (t.get? name).map Instance.facts = (r.get? name).map Instance.facts) :
    (r.get? name = none ∧ t.get? name = none) ∨
      ∃ i j, r.get? name = some i ∧ t.get? name = some j ∧ j.facts = i.facts := by
  cases hi : r.get? name with
  | none =>
    rw [hi, Option.map_none, Option.map_eq_none_iff] at h
    exact .inl ⟨rfl, h⟩
  | some i =>
    rw [hi] at h
    obtain ⟨j, hj, he⟩ := Option.map_eq_some_iff.mp h
    exact .inr ⟨i, j, rfl, hj, he⟩

/-- Two rosters have the same instances in the same order, with the same holders of host names, and
the same is known about each instance. -/
structure SameFacts (r t : Roster) : Prop where
  order : t.order = r.order
  holders : t.holders = r.holders
  known : ∀ name, (t.get? name).map Instance.facts = (r.get? name).map Instance.facts

namespace SameFacts

variable {r t u : Roster}

theorem refl (r : Roster) : r.SameFacts r := ⟨rfl, rfl, fun _ => rfl⟩

theorem trans (h : r.SameFacts t) (h' : t.SameFacts u) : r.SameFacts u :=
  ⟨h'.order.trans h.order, h'.holders.trans h.holders, fun n => (h'.known n).trans (h.known n)⟩

/-- To select another instance tells nothing about any. -/
theorem select (r : Roster) (selected : Option String) : r.SameFacts { r with selected } :=
  ⟨rfl, rfl, fun _ => rfl⟩

/-- A change of what an instance holds tells nothing about it. -/
theorem update (r : Roster) (name : String) {f : Instance → Instance}
    (hf : ∀ i, r.get? name = some i → (f i).facts = i.facts) : r.SameFacts (r.update name f) where
  order := rfl
  holders := rfl
  known other := by
    rw [get?_update]
    split
    · next he =>
      subst he
      cases hi : r.get? other with
      | none => rfl
      | some i => exact congrArg some (hf i hi)
    · rfl

/-- A change of what all instances hold tells nothing about any. -/
theorem mapAll (r : Roster) {f : Instance → Instance} (hf : ∀ i, (f i).facts = i.facts) :
    r.SameFacts { r with entries := r.entries.map f } where
  order := rfl
  holders := rfl
  known name := by
    rw [get?, Table.get?_map, get?]
    cases r.entries.get? name with
    | none => rfl
    | some i => exact congrArg some (hf i)

/-- What is found in the one is found in the other, as far as it is known. -/
theorem exists_get? (h : r.SameFacts t) {name : String} {j : Instance}
    (hj : t.get? name = some j) : ∃ i, r.get? name = some i ∧ j.facts = i.facts := by
  rcases cases_of_known (h.known name) with ⟨-, hn⟩ | ⟨i, k, hi, hk, he⟩
  · rw [hj] at hn
    cases hn
  · cases hj.symm.trans hk
    exact ⟨i, hi, he⟩

/-- Output is what makes its instance known, if it is not yet. -/
theorem route (r : Roster) (name : String) (data : Bytes) :
    (r.announced name).SameFacts (r.route name data).1 := by
  rw [route_eq]
  exact update _ name fun _ _ => rfl

end SameFacts

/-! ## Ghosts -/

/-- One roster is what another would be without a placeholder: that has no host name, and whatever
else there is is there in both. -/
structure Ghost (name : String) (r t : Roster) : Prop where
  placeholder : ∀ i, r.get? name = some i → i.provisional = true ∧ i.hostname = none
  absent : t.get? name = none
  order : t.order = r.order.filter fun n => n != name
  holders : t.holders = r.holders
  known : ∀ n, n ≠ name → (t.get? n).map Instance.facts = (r.get? n).map Instance.facts

namespace Ghost

variable {name : String} {r t r' t' : Roster}

/-- A placeholder under a new name is a ghost. -/
theorem insertPlaceholder (h : r.Consistent) (hn : r.contains name = false) :
    Ghost name (r.insertPlaceholder name) r where
  placeholder i hi := by
    have hnone : r.get? name = none := by simpa [contains_eq] using hn
    rw [get?_insertPlaceholder, if_pos rfl] at hi
    cases hi
    refine ⟨rfl, ?_⟩
    show (r.learned (Record.named name)).hostname = none
    rw [hostname_learned, show (Record.named name).name = name from rfl, hnone]
    rfl
  absent := by simpa [contains_eq] using hn
  order := by
    have hne : ∀ n ∈ r.order, (n != name) = true := by
      intro n hm
      rw [bne_iff_ne]
      rintro rfl
      rw [(h.mem_order n).mp hm] at hn
      cases hn
    rw [order_insertPlaceholder, hn, if_neg (by decide), List.filter_append,
      List.filter_eq_self.mpr hne]
    simp
  holders := ((holders_upsert r (Record.named name)).trans rfl).symm
  known n hne := by rw [get?_insertPlaceholder, if_neg hne]

/-- What tells nothing about any instance does not matter. -/
theorem retell (h : Ghost name r t) (hr : r.SameFacts r') (ht : t.SameFacts t') :
    Ghost name r' t' where
  placeholder i hi := by
    obtain ⟨j, hj, he⟩ := hr.exists_get? hi
    obtain ⟨hp, hh⟩ := h.placeholder j hj
    exact ⟨(Instance.provisional_of_facts he).trans hp, (Instance.hostname_of_facts he).trans hh⟩
  absent := by
    have hk := ht.known name
    rwa [h.absent, Option.map_none, Option.map_eq_none_iff] at hk
  order := by rw [ht.order, h.order, hr.order]
  holders := by rw [ht.holders, h.holders, hr.holders]
  known n hn := by rw [ht.known, h.known n hn, hr.known]

/-- A ghost makes no difference to host names. -/
theorem sameHosts (h : Ghost name r t) : r.SameHosts t := by
  have hnone : (r.get? name).bind Instance.hostname = none := by
    cases hi : r.get? name with
    | none => rfl
    | some i => exact (h.placeholder i hi).2
  apply SameHosts.of_filter h.holders h.order _ hnone
  intro n
  by_cases hn : n = name
  · rw [hn, h.absent, hnone]
    rfl
  · rcases cases_of_known (h.known n hn) with ⟨hr, ht⟩ | ⟨i, j, hi, hj, he⟩
    · rw [hr, ht]
    · rw [hi, hj]
      exact Instance.hostname_of_facts he

theorem contains (h : Ghost name r t) {n : String} (hn : n ≠ name) :
    t.contains n = r.contains n := by
  have hk := congrArg Option.isSome (h.known n hn)
  rwa [Option.isSome_map, Option.isSome_map] at hk

/-- A record says the same about instances of which the same is known. -/
private theorem facts_learned {record : Record}
    (h : (t.get? record.name).map Instance.facts = (r.get? record.name).map Instance.facts) :
    (t.learned record).facts = (r.learned record).facts := by
  unfold learned
  rcases cases_of_known h with ⟨hr, ht⟩ | ⟨i, j, hi, hj, he⟩
  · rw [hr, ht]
  · rw [hi, hj]
    exact congrArg (fun k : Instance => k.merge record) he

/-- A record of another instance leaves a ghost one. -/
theorem upsert (h : Ghost name r t) (record : Record) (hn : record.name ≠ name) :
    Ghost name (r.upsert record) (t.upsert record) where
  placeholder i hi := by
    rw [get?_upsert, if_neg (Ne.symm hn)] at hi
    exact h.placeholder i hi
  absent := by rw [get?_upsert, if_neg (Ne.symm hn), h.absent]
  order := by
    rw [order_upsert, order_upsert, h.contains hn, h.order]
    cases r.contains record.name <;> simp [hn]
  holders := by rw [holders_upsert, holders_upsert, h.sameHosts.holdersAfter]
  known n hne := by
    rw [get?_upsert, get?_upsert]
    split
    · exact congrArg some (facts_learned (h.known record.name hn))
    · exact h.known n hne

/-- A change of another instance leaves a ghost one. -/
theorem update (h : Ghost name r t) {n : String} (hn : n ≠ name) {f : Instance → Instance}
    (hf : ∀ i j : Instance, i.facts = j.facts → (f i).facts = (f j).facts) :
    Ghost name (r.update n f) (t.update n f) where
  placeholder i hi := by
    rw [get?_update, if_neg (Ne.symm hn)] at hi
    exact h.placeholder i hi
  absent := by rw [get?_update, if_neg (Ne.symm hn), h.absent]
  order := h.order
  holders := h.holders
  known m hm := by
    rw [get?_update, get?_update]
    split
    · rcases cases_of_known (h.known n hn) with ⟨hr, ht⟩ | ⟨i, j, hi, hj, he⟩
      · rw [hr, ht]
      · rw [hi, hj]
        exact congrArg some (hf j i he)
    · exact h.known m hm

/-- Another placeholder leaves a ghost one. -/
theorem expect (h : Ghost name r t) {key : String} (hn : key ≠ name) :
    Ghost name (r.insertPlaceholder key) (t.insertPlaceholder key) :=
  (h.upsert (Record.named key) hn).update hn fun _ _ he =>
    congrArg (fun k : Instance => { k with provisional := true }) he

/-- Output for another instance leaves a ghost one. -/
theorem announced (h : Ghost name r t) {n : String} (hn : n ≠ name) :
    Ghost name (r.announced n) (t.announced n) := by
  unfold Roster.announced
  rw [h.contains hn]
  split
  · exact h
  · exact h.upsert (Record.named n) hn

/-- To take another instance out leaves a ghost one. -/
theorem without (h : Ghost name r t) (hr : r.Consistent) (ht : t.Consistent) {n : String}
    (hn : n ≠ name) : Ghost name (r.without n) (t.without n) where
  placeholder i hi := by
    rw [get?_without, if_neg (Ne.symm hn)] at hi
    exact h.placeholder i hi
  absent := by rw [get?_without, if_neg (Ne.symm hn), h.absent]
  order := by
    rw [hr.order_without, ht.order_without, h.order, List.filter_filter, List.filter_filter]
    simp only [Bool.and_comm]
  holders := by
    rw [holders_without, holders_without, h.sameHosts.hostname, h.holders]
    cases (r.get? n).bind Instance.hostname with
    | none => rfl
    | some host => exact h.sameHosts.giveUp host n
  known m hm := by
    rw [get?_without, get?_without]
    split
    · rfl
    · exact h.known m hm

/-- A ghost that is taken out leaves no trace. -/
theorem vanish (h : Ghost name r t) (hr : r.Consistent) : t.SameFacts (r.without name) where
  order := by rw [hr.order_without, h.order]
  holders := by
    rw [holders_without, h.holders, ← h.sameHosts.hostname, h.absent]
    rfl
  known n := by
    rw [get?_without]
    split
    · next he => rw [he, h.absent]
    · next hn => exact (h.known n hn).symm

end Ghost
end TermSync.Roster

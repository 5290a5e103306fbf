import Mathlib.Data.List.Dedup
import TermSync.Proofs.Session.Membership

/-!
# The display order of a session

Instances are shown in the order in which they came in. Nothing but to be taken out and to come in
again moves one.

Main statements: `order_respond` (what a response does to the display order) and
`consistent_and_ordered` (what every run has done to it).
-/

namespace TermSync.Session

open Rest (SessionRecord)
open Roster (Instance Record)

private theorem eraseDups_filter (p : String → Bool) (names : List String) :
    (names.filter p).eraseDups = names.eraseDups.filter p := by
  -- The recursion is on the names that differ from the first.
  induction hl : names.length using Nat.strongRecOn generalizing names with
  | ind count ih =>
    cases names with
    | nil => rfl
    | cons name names =>
      have hlt : (names.filter fun n => !n == name).length < count := by
        rw [← hl, List.length_cons]
        exact Nat.lt_succ_of_le (List.length_filter_le _ _)
      have hi := ih _ hlt (names.filter fun n => !n == name) rfl
      rw [List.eraseDups_cons, List.filter_cons]
      cases hp : p name with
      | true =>
        rw [if_pos rfl, List.filter_cons, if_pos hp, List.eraseDups_cons, ← hi,
          List.filter_filter, List.filter_filter]
        simp only [Bool.and_comm]
      | false =>
        have hf : (names.filter fun n => !n == name).filter p = names.filter p := by
          rw [List.filter_filter]
          apply List.filter_congr
          intro n _
          by_cases hn : n = name
          · rw [hn, hp, Bool.false_and]
          · rw [beq_false_of_ne hn, Bool.not_false, Bool.and_true]
        rw [if_neg (by decide), List.filter_cons, hp, if_neg (by decide), ← hi, hf]

namespace State

/-! ## Acts that take nothing out -/

/-- The names in use after an act. -/
theorem contains_perform {s : State} (h : s.Coherent) (ha : s.isAlive = true) (a : Act)
    (name : String) :
    (s.perform a).state.roster.contains name =
      (s.roster.contains name && !a.removes name || a.introduces.contains name) := by
  have hm := (h.perform a).roster.mem_order name
  rw [order_perform h.roster ha, List.mem_append, List.mem_filter, List.mem_filter,
    h.roster.mem_order] at hm
  rw [Bool.eq_iff_iff, ← hm]
  have hdisjoint : a.removes name = true → a.introduces = [] := by
    cases a with
    | forget n => exact fun _ => rfl
    | terminate => exact fun _ => rfl
    | _ =>
      intro he
      cases he
  cases hr : a.removes name with
  | true => simp [hdisjoint hr]
  | false => cases hc : s.roster.contains name <;> simp

private theorem eraseDups_introduces (a : Act) : a.introduces.eraseDups = a.introduces := by
  cases a <;> rfl

/-- What acts introduce that take nothing out goes to the end of the display order, each name
once. -/
theorem order_performAll {s : State} (h : s.Coherent) (ha : s.isAlive = true) {as : List Act}
    (hr : ∀ a ∈ as, ∀ name, a.removes name = false) :
    (s.performAll as).state.roster.order =
      s.roster.order ++
        (as.flatMap Act.introduces).eraseDups.filter fun name => !s.roster.contains name := by
  induction as generalizing s with
  | nil => simp
  | cons a as ih =>
    have hra := hr a List.mem_cons_self
    have hne : a ≠ .terminate := by
      intro he
      have ht := hra ""
      rw [he] at ht
      cases ht
    have hi := ih (h.perform a) ((isAlive_perform s hne).trans ha) fun b hb =>
      hr b (List.mem_cons_of_mem a hb)
    have ho := order_perform h.roster ha a
    simp only [hra, Bool.not_false, List.filter_true] at ho
    rw [performAll_cons, Step.andThen]
    refine hi.trans ?_
    rw [ho, List.flatMap_cons, List.eraseDups_append, List.removeAll, eraseDups_filter,
      eraseDups_introduces, List.filter_append, List.filter_filter, List.append_assoc]
    simp only [contains_perform h ha, hra, Bool.not_false, Bool.and_true, Bool.not_or,
      List.elem_eq_contains]

/-- The names in use after acts that take nothing out. -/
theorem contains_performAll {s : State} (h : s.Coherent) (ha : s.isAlive = true) {as : List Act}
    (hr : ∀ a ∈ as, ∀ name, a.removes name = false) (name : String) :
    (s.performAll as).state.roster.contains name = true ↔
      s.roster.contains name = true ∨ name ∈ as.flatMap Act.introduces := by
  rw [← (h.performAll as).roster.mem_order, order_performAll h ha hr, List.mem_append,
    List.mem_filter, List.mem_eraseDups, h.roster.mem_order]
  cases s.roster.contains name <;> simp

/-! ## A response -/

/-- What is done about a stimulus introduces what the stimulus does. -/
theorem introduces_acts {s : State} (ha : s.isAlive = true) (x : Stimulus) :
    (s.acts x).flatMap Act.introduces = x.introduces := by
  have hf : Act.Shows Act.introduces :=
    ⟨fun _ => rfl, fun _ => rfl, fun _ => rfl, fun _ _ => rfl, rfl, fun _ => rfl, fun _ => rfl⟩
  rw [flatMap_acts hf ha]
  unfold bringing Stimulus.introduces
  split <;> simp [Act.introduces, List.flatMap_map, ← List.map_eq_flatMap]

/-- What a response does to the display order: the names that are taken out leave it, those that
come in go to the end, and no other name moves. -/
theorem order_respond {s : State} (h : s.Coherent) (hq : s.Quiet) (x : Stimulus) :
    (s.respond x).state.roster.order =
      (s.roster.order.filter fun name => !x.removes name) ++ s.arrivals x := by
  rw [respond_eq h.roster]
  cases ha : s.isAlive with
  | false =>
    rw [roster_acts_of_dead ha (hq ha), hq ha, arrivals, ha]
    rfl
  | true =>
    rw [arrivals, if_pos ha, ← introduces_acts ha]
    by_cases hr : ∀ name, x.removes name = false
    · rw [order_performAll h ha fun a hm name => removes_of_mem_acts (hr name) hm]
      simp [hr]
    · simp only [not_forall, Bool.not_eq_false] at hr
      obtain ⟨name, hx⟩ := hr
      rcases acts_of_removes ha hx with rfl | ⟨n, as, has, hremoves, hr⟩
      · rw [acts, if_pos ha, inboundActs, performAll_singleton, order_perform h.roster ha]
        simp [Act.introduces, Act.removes, Stimulus.removes]
      · have hne : Act.forget n ≠ .terminate := by simp
        have halive := (isAlive_perform s hne).trans ha
        have hafter := order_performAll (h.perform (.forget n)) halive hr
        rw [has, performAll_cons, Step.andThen, List.flatMap_cons]
        refine hafter.trans ?_
        rw [order_perform h.roster ha]
        simp [contains_perform h ha, Act.introduces, Act.removes, hremoves]

/-! ## A run -/

private theorem dedup_append (names more : List String) :
    (names ++ more).dedup = (names.dedup.filter fun n => !more.contains n) ++ more.dedup := by
  induction names with
  | nil => rfl
  | cons name names ih =>
    by_cases hn : name ∈ names
    · rw [List.cons_append, List.dedup_cons_of_mem (List.mem_append_left _ hn),
        List.dedup_cons_of_mem hn, ih]
    · by_cases hm : name ∈ more
      · rw [List.cons_append, List.dedup_cons_of_mem (List.mem_append_right _ hm),
          List.dedup_cons_of_notMem hn, List.filter_cons_of_neg (by simpa using hm), ih]
      · have ha : name ∉ names ++ more := fun h => (List.mem_append.mp h).elim hn hm
        rw [List.cons_append, List.dedup_cons_of_notMem ha, List.dedup_cons_of_notMem hn,
          List.filter_cons_of_pos (by simpa using hm), ih, List.cons_append]

/-- If the display order was that in which the instances came in last, it still is. -/
private theorem order_dedup_respond {s : State} (h : s.Coherent) (hq : s.Quiet) {log : List String}
    (ho : s.roster.order = log.dedup.filter s.roster.contains) (x : Stimulus) :
    (s.respond x).state.roster.order =
      (log ++ s.arrivals x).dedup.filter (s.respond x).state.roster.contains := by
  have hr := order_respond h hq x
  have hc := (h.respond x).roster
  have hnodup := hc.nodup
  have hmem := hc.mem_order
  simp only [hr, List.mem_append, List.mem_filter] at hnodup hmem
  have hnew : (s.arrivals x).filter (s.respond x).state.roster.contains = s.arrivals x :=
    List.filter_eq_self.mpr fun n hn => (hmem n).mp (.inr hn)
  rw [dedup_append, List.filter_append, List.dedup_eq_self.mpr hnodup.of_append_right, hnew, hr, ho,
    List.filter_filter, List.filter_filter]
  congr 1
  apply List.filter_congr
  intro n _
  have hn := hmem n
  have hb := h.roster.mem_order n
  -- A name that stays is not among the arrivals, which were not in use or are taken out.
  have ha : n ∈ s.arrivals x → s.roster.contains n = false ∨ x.removes n = true := by
    intro hm
    unfold arrivals at hm
    split at hm
    · simpa using (List.mem_filter.mp hm).2
    · cases hm
  rw [Bool.eq_iff_iff]
  grind

private theorem order_dedup_run {s : State} (h : s.Coherent) (hq : s.Quiet) {log : List String}
    (ho : s.roster.order = log.dedup.filter s.roster.contains) (xs : List Stimulus) :
    (s.run xs).state.roster.order =
      (log ++ s.arrivalLog xs).dedup.filter (s.run xs).state.roster.contains := by
  induction xs generalizing s log with
  | nil => simpa [arrivalLog, gather] using ho
  | cons x xs ih =>
    have hi := ih (h.respond x) (quiet_respond h hq x) (order_dedup_respond h hq ho x)
    rw [List.append_assoc] at hi
    exact hi

/-- After every run the roster is consistent, and lists the instances that are there in the order
in which they came in last; and whatever comes next, it only takes names out and puts new ones at
the end. -/
theorem consistent_and_ordered (id : String) (setup : Setup) (xs : List Stimulus) :
    let s := ((initial id setup).run xs).state
    s.roster.Consistent ∧ s.roster.isConsistent = true ∧
      s.roster.names = ((initial id setup).arrivalLog xs).dedup.filter s.roster.contains ∧
      ∀ x, (s.respond x).state.roster.names =
        (s.roster.names.filter fun name => !x.removes name) ++ s.arrivals x := by
  have hc := coherent_run id setup xs
  have hq := quiet_run id setup xs
  have hstart : (initial id setup).roster.order =
      ([] : List String).dedup.filter (initial id setup).roster.contains := rfl
  have horder := order_dedup_run (Coherent.initial id setup) (quiet_initial id setup) hstart xs
  exact ⟨hc.roster, Roster.isConsistent_of_consistent hc.roster, horder, order_respond hc hq⟩

end State
end TermSync.Session

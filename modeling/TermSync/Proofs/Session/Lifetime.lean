import TermSync.Proofs.Session.Order

/-!
# Lifetimes of instances

The lifetime of an instance begins with the stimulus with which its name comes in, and goes on for
as long as no stimulus takes it out. All the while the instance is there.

Main statements: `exists_of_lifetime` and `exists_lifetime` (who is there has a lifetime),
`deeds_of_lifetime` and `flatMap_deeds` (the acts of a lifetime, and what they amount to).
-/

namespace TermSync.Session.State

/-! ## Presence -/

/-- What is in use and not taken out stays in use. -/
theorem contains_respond {s : State} (h : s.Coherent) (hq : s.Quiet) {name : String}
    (hc : s.roster.contains name = true) {x : Stimulus} (hx : x.removes name = false) :
    (s.respond x).state.roster.contains name = true := by
  rw [← (h.respond x).roster.mem_order, order_respond h hq, List.mem_append, List.mem_filter,
    h.roster.mem_order, hc, hx]
  exact .inl ⟨rfl, rfl⟩

/-- What comes in is in use. -/
theorem contains_of_arrivals {s : State} (h : s.Coherent) (hq : s.Quiet) {name : String}
    {x : Stimulus} (hx : name ∈ s.arrivals x) :
    (s.respond x).state.roster.contains name = true := by
  rw [← (h.respond x).roster.mem_order, order_respond h hq, List.mem_append]
  exact .inr hx

/-- Instances are in use only while the session is alive. -/
theorem isAlive_of_contains {s : State} (hq : s.Quiet) {name : String}
    (hc : s.roster.contains name = true) : s.isAlive = true := by
  cases ha : s.isAlive with
  | true => rfl
  | false =>
    rw [hq ha] at hc
    cases hc

/-- Instances come in only while the session is alive. -/
theorem isAlive_of_arrivals {s : State} {name : String} {x : Stimulus}
    (hx : name ∈ s.arrivals x) : s.isAlive = true := by
  unfold arrivals at hx
  split at hx
  · assumption
  · cases hx

/-- An instance that is not taken out is there after a run. -/
theorem contains_run {s : State} (h : s.Coherent) (hq : s.Quiet) {name : String}
    (hc : s.roster.contains name = true) {life : List Stimulus}
    (hl : ∀ y ∈ life, y.removes name = false) :
    (s.run life).state.roster.contains name = true := by
  induction life generalizing s with
  | nil => exact hc
  | cons y life ih =>
    exact ih (h.respond y) (quiet_respond h hq y)
      (contains_respond h hq hc (hl y List.mem_cons_self)) fun z hz =>
        hl z (List.mem_cons_of_mem y hz)

/-- An instance is there until the end of its lifetime. -/
theorem exists_of_lifetime {s : State} (h : s.Coherent) (hq : s.Quiet) {name : String}
    {x : Stimulus} (hx : name ∈ s.arrivals x) {life : List Stimulus}
    (hl : ∀ y ∈ life, y.removes name = false) :
    ∃ i, (s.run (x :: life)).state.roster.get? name = some i := by
  have hc := contains_run (h.respond x) (quiet_respond h hq x) (contains_of_arrivals h hq hx) hl
  exact Option.isSome_iff_exists.mp hc

/-- Whoever is there after a run was there before and was not taken out, or came in with some
stimulus and was not taken out since. -/
theorem exists_lifetime {s : State} (h : s.Coherent) (hq : s.Quiet) {name : String}
    {xs : List Stimulus} (hc : (s.run xs).state.roster.contains name = true) :
    (s.roster.contains name = true ∧ ∀ y ∈ xs, y.removes name = false) ∨
      ∃ earlier x life, xs = earlier ++ x :: life ∧ name ∈ (s.run earlier).state.arrivals x ∧
        ∀ y ∈ life, y.removes name = false := by
  induction xs generalizing s with
  | nil => exact .inl ⟨hc, by simp⟩
  | cons x xs ih =>
    rcases ih (h.respond x) (quiet_respond h hq x) hc with
      ⟨hthere, hl⟩ | ⟨earlier, y, life, hs, hy, hl⟩
    · rw [← (h.respond x).roster.mem_order, order_respond h hq, List.mem_append, List.mem_filter,
        h.roster.mem_order] at hthere
      rcases hthere with ⟨hbefore, hx⟩ | hx
      · exact .inl ⟨hbefore, List.forall_mem_cons.mpr ⟨by simpa using hx, hl⟩⟩
      · exact .inr ⟨[], x, xs, rfl, hx, hl⟩
    · exact .inr ⟨x :: earlier, y, life, by rw [hs]; rfl, hy, hl⟩

/-! ## Acts -/

theorem removes_of_mem_deeds {s : State} {name : String} {xs : List Stimulus}
    (hl : ∀ y ∈ xs, y.removes name = false) {a : Act} (ha : a ∈ s.deeds xs) :
    a.removes name = false := by
  induction xs generalizing s with
  | nil => cases ha
  | cons x xs ih =>
    rcases List.mem_append.mp ha with ha | ha
    · exact removes_of_mem_acts (hl x List.mem_cons_self) ha
    · exact ih (fun y hy => hl y (List.mem_cons_of_mem x hy)) ha

/-- A lifetime begins without the instance; from then on nothing takes it out. -/
theorem deeds_of_lifetime {s : State} {name : String} {x : Stimulus}
    (hx : name ∈ s.arrivals x) {life : List Stimulus} (hl : ∀ y ∈ life, y.removes name = false) :
    ∃ as bs, s.deeds (x :: life) = as ++ bs ∧ (∀ a ∈ as, a = .forget name) ∧
      (s.performAll as).state.roster.get? name = none ∧ ∀ b ∈ bs, b.removes name = false := by
  have ha := isAlive_of_arrivals hx
  rw [arrivals, if_pos ha, List.mem_filter] at hx
  cases hr : x.removes name with
  | false =>
    have hnone : s.roster.get? name = none := by simpa [hr, Roster.contains_eq] using hx.2
    have hgentle : ∀ b ∈ s.deeds (x :: life), b.removes name = false := fun b hb =>
      removes_of_mem_deeds (List.forall_mem_cons.mpr ⟨hr, hl⟩) hb
    exact ⟨[], s.deeds (x :: life), rfl, by simp, hnone, hgentle⟩
  | true =>
    rcases acts_of_removes ha hr with rfl | ⟨n, as, has, hn, hgentle⟩
    · simp [Stimulus.introduces] at hx
    · have hname : n = name := by simpa [hn] using hr
      subst hname
      have hdeeds : s.deeds (x :: life) =
          [.forget n] ++ (as ++ (s.respond x).state.deeds life) := by
        rw [deeds, has, List.cons_append, List.singleton_append]
      have hnone : (s.performAll [.forget n]).state.roster.get? n = none := by
        rw [performAll_singleton, perform, get?_forget, if_pos rfl]
      refine ⟨[.forget n], as ++ (s.respond x).state.deeds life, hdeeds, by simp, hnone, ?_⟩
      intro b hb
      rcases List.mem_append.mp hb with hb | hb
      · exact hgentle b hb n
      · exact removes_of_mem_deeds hl hb

/-- What the acts of a lifetime amount to, if each response amounts to as much. -/
theorem flatMap_deeds {β : Type} {f : Act → List β} {g : State → Stimulus → List β}
    (hfg : ∀ s x, s.isAlive = true → (s.acts x).flatMap f = g s x) {s : State} (h : s.Coherent)
    (hq : s.Quiet) {name : String} {x : Stimulus} (hx : name ∈ s.arrivals x)
    {life : List Stimulus} (hl : ∀ y ∈ life, y.removes name = false) :
    (s.deeds (x :: life)).flatMap f = s.gather g (x :: life) := by
  have hrest {s : State} (h : s.Coherent) (hq : s.Quiet)
      (hc : s.roster.contains name = true) : (s.deeds life).flatMap f = s.gather g life := by
    induction life generalizing s with
    | nil => rfl
    | cons y life ih =>
      rw [deeds, gather, List.flatMap_append, hfg s y (isAlive_of_contains hq hc)]
      rw [ih (fun z hz => hl z (List.mem_cons_of_mem y hz)) (h.respond y) (quiet_respond h hq y)
        (contains_respond h hq hc (hl y List.mem_cons_self))]
  rw [deeds, gather, List.flatMap_append, hfg s x (isAlive_of_arrivals hx),
    hrest (h.respond x) (quiet_respond h hq x) (contains_of_arrivals h hq hx)]

end TermSync.Session.State

import TermSync.Proofs.Roster.Rows
import TermSync.Proofs.Session.Showing

/-!
# Loading a session and hearing of its instances

The instances of a session come in two ways: all at once, when the session is loaded, or one by one,
when they are announced. To load is to merge every record and then to display the first instance if
none is selected; an announcement is displayed if it is the first confirmed one. Both come to the
same, because to merge a record and to display an instance do not meet.

Main statements: `display_learn_comm` (a record and a display can be done in any order),
`load_steps` (to load is to take over what is told about the session itself, to hear of its
instances one by one, and to count down) and `loaded_eq_announced`.
-/

namespace TermSync.Session.State

open Rest (SessionRecord)
open Roster (Instance Record)
open Terminal (Screen)
open Wire (Inbound)

variable {s : State} {name : String} {i : Instance}

/-! ## A record and a display -/

private theorem openedRoster_eq (hi : s.roster.get? name = some i) :
    s.openedRoster name i =
      { s.roster with selected := some name }.update name (s.opened name) := by
  apply Roster.update_congr
  intro j hj
  cases hi.symm.trans hj
  rfl

/-- A record that is merged once the instance is displayed leads to the same roster. -/
private theorem upsert_openedRoster (hi : s.roster.get? name = some i) (record : Record)
    {j : Instance} (hj : (s.roster.upsert record).get? name = some j) :
    (s.openedRoster name i).upsert record =
      openedRoster { s with roster := s.roster.upsert record } name j := by
  rw [openedRoster_eq hi, openedRoster_eq (s := { s with roster := s.roster.upsert record }) hj,
    Roster.update_upsert (r := { s.roster with selected := some name }) hi
      (f := s.opened name) (fun _ => rfl) (fun _ => rfl),
    Roster.select_upsert s.roster record (some name)]
  rfl

/-- What is displayed of an instance is its screen, which no record touches. -/
private theorem screen_upsert (hi : s.roster.get? name = some i) (record : Record) :
    ∃ j, (s.roster.upsert record).get? name = some j ∧ j.screen = i.screen := by
  rw [Roster.get?_upsert]
  split
  · next hn =>
    subst hn
    refine ⟨s.roster.learned record, rfl, ?_⟩
    rw [Roster.screen_learned, hi]
    rfl
  · exact ⟨i, hi, rfl⟩

private theorem learn_propose? (t : State) (g : Option Terminal.Geometry) (roster : Roster) :
    ({ t.propose? g with roster } : State) = { t with roster }.propose? g := by
  cases g <;> rfl

/-- To merge a record and to display an instance that is there can be done in any order. -/
theorem display_learn_comm (ha : s.isAlive = true) (hi : s.roster.get? name = some i)
    (record : Record) :
    s.performAll [.display name, .learn record] = s.performAll [.learn record, .display name] := by
  obtain ⟨j, hj, hscreen⟩ := screen_upsert hi record
  let u : State := { s with roster := s.roster.upsert record }
  have hau : u.isAlive = true := ha
  have hfirst : s.performAll [.display name, .learn record] =
      { state :=
          { (s.display name i).state with
            roster := (s.display name i).state.roster.upsert record }
        effects := (s.display name i).effects } := by
    rw [performAll_cons, perform_display ha hi, Step.andThen, performAll_singleton]
    simp [perform]
  have hsecond : s.performAll [.learn record, .display name] = u.display name j := by
    rw [performAll_cons, Step.andThen, performAll_singleton]
    exact perform_display (s := u) hau hj
  rw [hfirst, hsecond]
  cases hw : i.screen.widget with
  | some w =>
    rw [display_of_attached s name hw, display_of_attached u name (hscreen ▸ hw),
      Roster.select_upsert]
  | none =>
    have hroster : ((s.display name i).state.roster).upsert record = u.openedRoster name j := by
      rw [display_of_detached s name hw, ← upsert_openedRoster hi record hj]
      cases s.fits name <;> rfl
    have hcalls : u.openingCalls name j = s.openingCalls name i := by
      unfold openingCalls
      rw [hscreen]
      rfl
    rw [hroster, display_of_detached s name hw, display_of_detached u name (hscreen ▸ hw),
      learn_propose?, hcalls]
    rfl

/-- An act that can be done before or after each of some others can be done before or after all of
them. -/
private theorem performAll_comm {P : State → Prop} {a : Act} {as : List Act}
    (h : ∀ s, P s → ∀ b ∈ as,
      s.performAll [a, b] = s.performAll [b, a] ∧ P (s.perform b).state) (hs : P s) :
    s.performAll (a :: as) = s.performAll (as ++ [a]) := by
  induction as generalizing s with
  | nil => rfl
  | cons b as ih =>
    obtain ⟨hcomm, hkept⟩ := h s hs b List.mem_cons_self
    have hrest := ih (fun s hs c hc => h s hs c (List.mem_cons_of_mem b hc)) hkept
    calc s.performAll (a :: b :: as)
        = (s.performAll [a, b]).andThen fun t => t.performAll as := performAll_append s [a, b] as
      _ = s.performAll (b :: a :: as) := by
          rw [hcomm]
          exact (performAll_append s [b, a] as).symm
      _ = s.performAll (b :: (as ++ [a])) := by
          rw [performAll_cons, Step.andThen, hrest]
          rfl

/-- Any number of records can be merged before or after an instance is displayed. -/
theorem performAll_display_learns (ha : s.isAlive = true) (hi : s.roster.get? name = some i)
    (entries : List (String × Record)) :
    s.performAll (.display name :: entries.map fun entry => .learn entry.2) =
      s.performAll ((entries.map fun entry => .learn entry.2) ++ [.display name]) := by
  apply performAll_comm (P := fun s => s.isAlive = true ∧ ∃ i, s.roster.get? name = some i)
  · rintro t ⟨hat, j, hj⟩ b hb
    obtain ⟨entry, -, rfl⟩ := List.mem_map.mp hb
    obtain ⟨k, hk, -⟩ := screen_upsert hj entry.2
    exact ⟨display_learn_comm hat hj entry.2, hat, k, hk⟩
  · exact ⟨ha, i, hi⟩

/-- An instance that comes in can be displayed before or after other records are merged. -/
private theorem performAll_learn_display (ha : s.isAlive = true) (record : Record)
    (entries : List (String × Record)) :
    s.performAll (.learn record :: .display record.name ::
        entries.map fun entry => .learn entry.2) =
      s.performAll (.learn record ::
        ((entries.map fun entry => .learn entry.2) ++ [.display record.name])) := by
  have hi := Roster.get?_upsert_self s.roster record
  have hswap := performAll_display_learns (s := (s.perform (.learn record)).state) ha hi entries
  rw [performAll_cons, Step.andThen, hswap]
  rfl

/-! ## Announcements -/

/-- The announcements of the instances that are described. -/
def announcements (r : SessionRecord) : List Stimulus :=
  r.instances.map fun entry => .inbound (.instanceNew entry.2)

/-- A confirmed instance is selected. -/
def Confirmed (s : State) : Prop :=
  ∃ i, s.roster.selected? = some i ∧ i.provisional = false

theorem Confirmed.of_onScreen (h : s.OnScreen) : s.Confirmed := by
  obtain ⟨i, hi, hp, -⟩ := h
  exact ⟨i, hi, hp⟩

/-- A record leaves it at that. -/
theorem Confirmed.upsert (h : s.Confirmed) (record : Record) :
    Confirmed { s with roster := s.roster.upsert record } := by
  obtain ⟨i, hi, hp⟩ := h
  have hsel := selected?_upsert s.roster record
  by_cases hn : s.roster.selected = some record.name
  · rw [if_pos hn] at hsel
    exact ⟨_, hsel, Roster.provisional_learned s.roster record⟩
  · rw [if_neg hn] at hsel
    exact ⟨i, hsel.trans hi, hp⟩

/-- While a confirmed instance is selected, none is the first. -/
theorem isFirstConfirmed_of_confirmed (h : s.Confirmed) : s.isFirstConfirmed = false := by
  obtain ⟨i, hi, hp⟩ := h
  simp [isFirstConfirmed, hi, hp]

/-- While a confirmed instance is selected, an announcement is merged and displays nothing. -/
theorem acts_announced_of_confirmed (ha : s.isAlive = true) (hc : s.Confirmed) (record : Record) :
    s.acts (.inbound (.instanceNew record)) = [.learn record] := by
  have hlater : isFirstConfirmed { s with roster := s.roster.upsert record } = false :=
    isFirstConfirmed_of_confirmed (hc.upsert record)
  rw [acts, if_pos ha, inboundActs, hlater]
  rfl

private theorem respond_announced (hs : s.Coherent) (ha : s.isAlive = true) (hc : s.Confirmed)
    (record : Record) :
    s.respond (.inbound (.instanceNew record)) = s.perform (.learn record) := by
  rw [respond_eq hs.roster, acts_announced_of_confirmed ha hc]
  exact performAll_singleton s (.learn record)

/-- While a confirmed instance is selected, announcements are merged and nothing is displayed. -/
private theorem run_announcements (hs : s.Coherent) (ha : s.isAlive = true) (hc : s.Confirmed)
    (entries : List (String × Record)) :
    s.run (entries.map fun entry => .inbound (.instanceNew entry.2)) =
      s.performAll (entries.map fun entry => .learn entry.2) := by
  induction entries generalizing s with
  | nil => rfl
  | cons entry entries ih =>
    have hrest := ih (hs.perform (.learn entry.2)) ha (hc.upsert entry.2)
    rw [List.map_cons, List.map_cons, run_cons, performAll_cons, respond_announced hs ha hc,
      Step.andThen, Step.andThen, hrest]

/-- What is displayed when a session is loaded. -/
def firstActs (roster : Roster) : List Act :=
  match roster.selected, roster.names.head? with
  | none, some name => [.display name]
  | _, _ => []

private theorem loadActs_eq (s : State) (r : SessionRecord) :
    s.loadActs r =
      .aside (.relate r) :: (r.instances.map fun entry => .learn entry.2) ++
        (firstActs (r.instances.foldl (fun roster entry => roster.upsert entry.2) s.roster) ++
          [.aside .startCountdown]) := rfl

private theorem selected_foldl (roster : Roster) (entries : List (String × Record)) :
    (entries.foldl (fun roster entry => roster.upsert entry.2) roster).selected =
      roster.selected := by
  induction entries generalizing roster with
  | nil => rfl
  | cons entry entries ih => rw [List.foldl_cons, ih, Roster.selected_upsert]

private theorem head?_foldl {roster : Roster} {name : String} (h : roster.names.head? = some name)
    (entries : List (String × Record)) :
    (entries.foldl (fun roster entry => roster.upsert entry.2) roster).names.head? = some name := by
  induction entries generalizing roster with
  | nil => exact h
  | cons entry entries ih =>
    apply ih
    have ho := Roster.order_upsert roster entry.2
    rw [Roster.names] at h ⊢
    rw [ho]
    split
    · exact h
    · rw [List.head?_append, h]
      rfl

/-- A roster without names has no instance in it and none selected. -/
private theorem unconfirmed_of_names (hs : s.Coherent) (h : s.roster.names = []) :
    s.roster.selected = none ∧ ∀ name, s.roster.contains name = false := by
  have hnone : ∀ name, name ∉ s.roster.order := by
    intro name hm
    rw [Roster.names] at h
    rw [h] at hm
    cases hm
  constructor
  · cases hsel : s.roster.selected with
    | none => rfl
    | some name => exact absurd (hs.roster.shown name hsel) (hnone name)
  · intro name
    rw [← Bool.not_eq_true, ← hs.roster.mem_order]
    exact hnone name

/-- The first instance of all that is announced is displayed. -/
private theorem respond_first (hs : s.Coherent) (ha : s.isAlive = true) (h : s.roster.names = [])
    (record : Record) :
    s.respond (.inbound (.instanceNew record)) =
      s.performAll [.learn record, .display record.name] := by
  obtain ⟨hsel, hnone⟩ := unconfirmed_of_names hs h
  have hunconfirmed : s.Unconfirmed := by
    intro i hi
    rw [Roster.selected?, hsel] at hi
    cases hi
  have hfirst : isFirstConfirmed { s with roster := s.roster.upsert record } = true := by
    apply (isFirstConfirmed_iff hs hunconfirmed record).mpr
    refine ⟨by rw [hsel]; simp, ?_⟩
    intro i hi
    have hc := Roster.contains_of_get? (hs.roster.get?_of_mem_instances hi)
    rw [hnone] at hc
    cases hc
  rw [respond_eq hs.roster, acts, if_pos ha, inboundActs, if_pos hfirst]

/-- Announcements come to what a session does about the same records when it is loaded, unless
instances are known and none that is confirmed is selected. -/
theorem run_announcements_eq (hs : s.Coherent) (ha : s.isAlive = true)
    (hc : s.roster.names = [] ∨ s.Confirmed) (r : SessionRecord) :
    s.run (announcements r) =
      s.performAll ((r.instances.map fun entry => .learn entry.2) ++
        firstActs (r.instances.foldl (fun roster entry => roster.upsert entry.2) s.roster)) := by
  rcases hc with hempty | hc
  · obtain ⟨hsel, hnone⟩ := unconfirmed_of_names hs hempty
    unfold announcements
    cases r.instances with
    | nil => simp [firstActs, hempty]
    | cons entry entries =>
      -- The first record is displayed when it is announced, and after all others when the session
      -- is loaded.
      let first := [Act.learn entry.2, .display entry.2.name]
      let learns : List Act := entries.map fun e => .learn e.2
      have hdisplay : firstActs ((entry :: entries).foldl
          (fun roster entry => roster.upsert entry.2) s.roster) = [.display entry.2.name] := by
        have hnames : (s.roster.upsert entry.2).names.head? = some entry.2.name := by
          have ho := Roster.order_upsert s.roster entry.2
          rw [hnone, if_neg (by simp)] at ho
          rw [Roster.names] at hempty ⊢
          rw [ho, hempty]
          rfl
        rw [firstActs, selected_foldl, hsel, List.foldl_cons, head?_foldl hnames]
      have hlater : (s.performAll first).state.run (announcements { r with instances := entries }) =
          (s.performAll first).state.performAll learns := by
        apply run_announcements (hs.performAll first)
        · exact (isAlive_performAll (by simp [first])).trans ha
        · apply Confirmed.of_onScreen
          exact onScreen_display (s := (s.perform (.learn entry.2)).state) ha
            (Roster.get?_upsert_self s.roster entry.2)
            (Roster.provisional_learned s.roster entry.2)
      rw [hdisplay, List.map_cons, run_cons, respond_first hs ha hempty]
      calc ((s.performAll first).andThen fun t =>
            t.run (announcements { r with instances := entries }))
          = (s.performAll first).andThen fun t => t.performAll learns := by
            rw [Step.andThen, Step.andThen, hlater]
        _ = s.performAll (.learn entry.2 :: .display entry.2.name :: learns) :=
            (performAll_append s first learns).symm
        _ = s.performAll (.learn entry.2 :: (learns ++ [.display entry.2.name])) :=
            performAll_learn_display ha entry.2 entries
  · obtain ⟨i, hi, hp⟩ := hc
    obtain ⟨name, hsel, -⟩ := Option.bind_eq_some_iff.mp hi
    have hnone : firstActs
        (r.instances.foldl (fun roster entry => roster.upsert entry.2) s.roster) = [] := by
      rw [firstActs, selected_foldl, hsel]
    rw [hnone, List.append_nil]
    exact run_announcements hs ha ⟨i, hi, hp⟩ r.instances

/-! ## The session itself -/

/-- What is told about the session itself can be taken over before or after a display. -/
private theorem relate_display_comm (s : State) (r : SessionRecord) (name : String) :
    s.performAll [.aside (.relate r), .display name] =
      s.performAll [.display name, .aside (.relate r)] := by
  let u : State := (s.performAside (.relate r)).state
  have hfirst : s.performAll [.aside (.relate r), .display name] = u.perform (.display name) := by
    rw [performAll_cons, Step.andThen, performAll_singleton]
    rfl
  rw [hfirst, performAll_cons, Step.andThen, performAll_singleton]
  cases ha : s.isAlive with
  | false =>
    have hau : u.isAlive = false := ha
    simp only [perform, Step.orStay, Step.attempt, select, ha, hau]
    rfl
  | true =>
    have hau : u.isAlive = true := ha
    cases hi : s.roster.get? name with
    | none =>
      have hiu : u.roster.get? name = none := hi
      simp only [perform, Step.orStay, Step.attempt, select, ha, hau, hi, hiu]
      rfl
    | some i =>
      rw [perform_display ha hi, perform_display (s := u) hau hi]
      cases hw : i.screen.widget with
      | some w =>
        rw [display_of_attached s name hw, display_of_attached u name hw]
        rfl
      | none =>
        rw [display_of_detached s name hw, display_of_detached u name hw]
        show _ = ({ state := _, effects := _ ++ [] } : Step)
        rw [List.append_nil]
        have hfits : u.fits name = s.fits name := rfl
        rw [hfits]
        cases s.fits name <;> rfl

/-- So it can be before or after instances are merged and displayed. -/
private theorem performAll_relate (s : State) (r : SessionRecord) {as : List Act}
    (h : ∀ a ∈ as, (∃ record, a = .learn record) ∨ ∃ name, a = .display name) :
    s.performAll (.aside (.relate r) :: as) = s.performAll (as ++ [.aside (.relate r)]) := by
  apply performAll_comm (P := fun _ => True)
  · intro t _ b hb
    refine ⟨?_, trivial⟩
    rcases h b hb with ⟨record, rfl⟩ | ⟨name, rfl⟩
    · rfl
    · exact relate_display_comm t r name
  · trivial

/-- To load a session is to hear of its instances one by one, to take over what is told about the
session itself, and to count down; unless instances are known and none that is confirmed is
selected. -/
theorem load_steps (hs : s.Coherent) (ha : s.isAlive = true)
    (hc : s.roster.names = [] ∨ s.Confirmed) (r : SessionRecord) :
    s.bootstrap (.ok r) =
      .ok ((s.run (announcements r)).andThen fun t =>
        t.performAll [.aside (.relate r), .aside .startCountdown]) := by
  let first := firstActs (r.instances.foldl (fun roster entry => roster.upsert entry.2) s.roster)
  let met := (r.instances.map fun entry => .learn entry.2) ++ first
  have hmet : ∀ a ∈ met, (∃ record, a = .learn record) ∨ ∃ name, a = .display name := by
    intro a hm
    rcases List.mem_append.mp hm with hm | hm
    · obtain ⟨entry, -, rfl⟩ := List.mem_map.mp hm
      exact .inl ⟨entry.2, rfl⟩
    · simp only [first, firstActs] at hm
      split at hm
      · next name _ _ => exact .inr ⟨name, List.mem_singleton.mp hm⟩
      · cases hm
  have hacts : s.loadActs r = (.aside (.relate r) :: met) ++ [.aside .startCountdown] := by
    rw [loadActs_eq]
    simp [met, first]
  have hload := load_eq hs.roster ha r
  rw [bootstrap, if_pos ha]
  rw [hload, hacts, performAll_append, performAll_relate s r hmet, ← performAll_append,
    List.append_assoc, performAll_append, run_announcements_eq hs ha hc]
  rfl

/-- To take over what is told about the session itself and to count down touches neither the
instances nor the viewport, and does nothing to the outside. -/
private theorem related (t : Step) (r : SessionRecord) :
    let u := t.andThen fun t => t.performAll [.aside (.relate r), .aside .startCountdown]
    u.state.roster = t.state.roster ∧ u.state.viewport = t.state.viewport ∧
      u.effects = t.effects := by
  obtain ⟨_, _, _, he⟩ := (t.state.performAside (.relate r)).state.startCountdown_eq
  simp only [performAll_cons, performAll_nil, perform, performAside, Step.andThen] at he ⊢
  rw [he]
  exact ⟨rfl, rfl, by simp⟩

/-- In every state that a run reaches while the session is alive, to load the session and to hear of
its instances one by one lead to the same roster and the same viewport, with the proposal that
waits, and do the same to the widgets; if no instance is known, or a confirmed one is selected. -/
theorem loaded_eq_announced (id : String) (setup : Setup) (xs : List Stimulus)
    (ha : ((initial id setup).run xs).state.isAlive = true)
    (hc : ((initial id setup).run xs).state.roster.names = [] ∨
      ((initial id setup).run xs).state.Confirmed) (r : SessionRecord) :
    let s := ((initial id setup).run xs).state
    let announced := s.run (announcements r)
    ∃ loaded, s.bootstrap (.ok r) = .ok loaded ∧
      loaded.state.roster = announced.state.roster ∧
      loaded.state.viewport = announced.state.viewport ∧
      loaded.effects = announced.effects := by
  intro s announced
  have hs : s.Coherent := coherent_run id setup xs
  have hloaded := load_steps hs ha hc r
  exact ⟨_, hloaded, related announced r⟩

/-- Nothing is known yet; a name and a host name occur twice, and one record has no name. -/
theorem loaded_eq_announced_at_first :
    let xs : List Stimulus := [.refit fun _ => some { cols := 80, rows := 24 }, .pass 7]
    let r : SessionRecord :=
      { instances :=
          [("k1", { name := "a", hostname := some "host" }),
            ("k2", { name := "b", hostname := some "host" }),
            ("k3", { name := "a", image := some "alpine" }), ("k4", {})] }
    let s := ((initial "s1" {}).run xs).state
    let announced := s.run (announcements r)
    s.isAlive = true ∧ s.roster.names = [] ∧ announced.state.roster.names = ["a", "b", ""] ∧
      announced.state.roster.selected = some "a" ∧
      announced.state.viewport.pending = some { cols := 80, rows := 24 } ∧
      ∃ loaded, s.bootstrap (.ok r) = .ok loaded ∧
        loaded.state.roster = announced.state.roster ∧
        loaded.state.viewport = announced.state.viewport ∧
        loaded.effects = announced.effects := by
  intro xs r
  have ha : ((initial "s1" {}).run xs).state.isAlive = true := by decide
  have hn : ((initial "s1" {}).run xs).state.roster.names = [] := by decide
  have hloaded := loaded_eq_announced "s1" {} xs ha (.inl hn) r
  refine ⟨ha, hn, ?_, ?_, ?_, hloaded⟩
  · decide +kernel
  · decide +kernel
  · decide +kernel

end TermSync.Session.State

import TermSync.Proofs.Session.Focus
import TermSync.Proofs.Session.Order
import TermSync.Proofs.Session.Telling

/-!
# Placeholders

A placeholder comes with the request for its instance and goes with the answer. As long as nothing
else uses its key, nothing else takes it out and nothing confirms it; and if the request fails,
nothing is left of it but the notice.

Main statements: `Keyed.perform` (the keys are the names of the placeholders),
`placeholders_eq_inFlight` (the placeholders are those of the requests that are not answered yet)
and `failed_create_traceless` (what a request leaves that fails).
-/

namespace TermSync.Session

open Rest (SessionRecord)
open Roster (Ghost Instance Record SameFacts)

/-! ## Requests -/

/-- The key under which an instance is requested. -/
def Request.key? : Request → Option String
  | .create key _ => some key
  | .delete _ => none

/-- The keys of the requests for instances among effects. -/
def Effect.keys (effects : List Effect) : List String :=
  (requests effects).filterMap Request.key?

/-- The requests that an act sends. -/
def Act.asks : Act → List Request
  | .aside (.ask r) => [r]
  | _ => []

namespace State

private theorem requests_performAside (s : State) (a : Aside) :
    Effect.requests (s.performAside a).effects = (Act.aside a).asks := by
  cases a with
  | setConnected connected =>
    obtain ⟨told, he⟩ := s.setConnected_eq connected
    rw [performAside, he]
    cases told <;> rfl
  | settle =>
    rw [performAside, settle_eq]
    cases s.isAlive with
    | false => rfl
    | true => cases s.viewport.settle.1 <;> rfl
  | builderOut data => exact Effect.requests_map_call _
  | attachBuilder =>
    rcases s.attachBuilder_cases with ⟨-, he⟩ | ⟨-, he⟩
    · rw [performAside, he]
      exact Effect.requests_map_call _
    · rw [performAside, he]
      rfl
  | _ => rfl

theorem requests_perform (s : State) (a : Act) :
    Effect.requests (s.perform a).effects = a.asks := by
  cases a with
  | forget name =>
    obtain ⟨calls, he⟩ := s.forget_eq name
    rw [perform, he]
    exact Effect.requests_map_call calls
  | display name =>
    rcases display_cases s name with ⟨_, _, -, -, -, hp⟩ | ⟨_, _, _, -, -, -, hp⟩ | ⟨-, hp⟩ <;>
      rw [hp]
    · rfl
    · exact Effect.requests_map_call _
    · rfl
  | route name data => exact Effect.requests_map_call _
  | resizeAll g => exact Effect.requests_map_call _
  | flush name =>
    cases hi : s.roster.get? name with
    | none =>
      rw [perform, flush_eq_of_none hi]
      rfl
    | some i =>
      rw [perform, flush_eq hi]
      cases i.takeTyped.1 <;> cases s.isAlive <;> rfl
  | terminate =>
    simp only [perform, terminate]
    split
    · rw [Effect.requests_append, Effect.requests_map_call]
      rfl
    · rfl
  | aside a => exact requests_performAside s a
  | _ => rfl

theorem requests_performAll (s : State) (as : List Act) :
    Effect.requests (s.performAll as).effects = as.flatMap Act.asks := by
  induction as generalizing s with
  | nil => rfl
  | cons a as ih =>
    rw [performAll_cons, Step.andThen, Effect.requests_append, requests_perform, ih,
      List.flatMap_cons]

/-- An instance is requested exactly when the user asks for one. -/
theorem keys_respond {s : State} (h : s.Coherent) (ha : s.isAlive = true) (x : Stimulus) :
    Effect.keys (s.respond x).effects = x.asked?.toList := by
  have hshow (t : State) : t.showActs.flatMap Act.asks = [] := by
    rw [List.flatMap_eq_nil_iff]
    intro a ha
    obtain ⟨name, rfl⟩ := display_of_mem_showActs ha
    rfl
  rw [respond_eq h.roster, Effect.keys, requests_performAll]
  cases x with
  | bootstrap answer =>
    cases answer with
    | error e => rfl
    | ok r =>
      rw [acts, if_pos ha]
      simp only [loadActs]
      split <;> simp [Act.asks, Stimulus.asked?, List.flatMap_map]
  | command key c =>
    rw [acts, if_pos ha]
    cases c with
    | delete name =>
      simp only [commandActs]
      cases s.roster.contains name <;> rfl
    | input name data =>
      simp only [commandActs]
      cases s.roster.get? name with
      | none => rfl
      | some i => cases hi : i.screen.isAttached <;> simp [hi] <;> rfl
    | fit =>
      simp only [commandActs]
      cases s.selectedFit <;> rfl
    | _ => rfl
  | inbound e =>
    rw [acts, if_pos ha]
    cases e with
    | instanceNew record =>
      simp only [inboundActs]
      split <;> rfl
    | instanceDelete name => simp [inboundActs, Act.asks, hshow, Stimulus.asked?]
    | swarmPorts r => simp [inboundActs, List.flatMap_map, Act.asks, Stimulus.asked?]
    | _ => rfl
  | event e =>
    rw [acts]
    cases e with
    | countdownTick =>
      rw [eventActs, if_pos ha]
      rfl
    | created key answer =>
      rw [eventActs, if_pos ha]
      cases answer with
      | ok r => rfl
      | error e => simp [createdActs, Act.asks, hshow, Stimulus.asked?]
    | deleted name answer =>
      rw [eventActs, if_pos ha]
      cases answer with
      | ok u => simp [deletedActs, Act.asks, hshow, Stimulus.asked?]
      | error e => rfl
    | _ => rfl
  | _ => rfl

/-! ## Keys and names -/

/-- The placeholders are the instances that go by one of the keys. -/
def Keyed (s : State) (keys : List String) : Prop :=
  ∀ name i, s.roster.get? name = some i → i.provisional = keys.contains name

end State

/-- An act that brings an instance tells placeholders from other instances by the keys. -/
def Act.Respects (keys : List String) : Act → Prop
  | .learn record => record.name ∉ keys
  | .expect key => key ∈ keys
  | .route name _ => name ∉ keys
  | _ => True

/-- A stimulus tells placeholders from other instances: it asks for instances under the keys, and
speaks of no instance by one of them. -/
structure Stimulus.Respects (x : Stimulus) (keys : List String) : Prop where
  asked : ∀ key, x.asked? = some key → key ∈ keys
  mentions : ∀ name ∈ x.mentions, name ∉ keys

namespace State

variable {keys : List String} {s : State}

theorem respects_acts {x : Stimulus} (hx : x.Respects keys) (ha : s.isAlive = true) {a : Act}
    (hm : a ∈ s.acts x) : a.Respects keys := by
  cases ht : a.tells with
  | false => cases a <;> first | exact trivial | cases ht
  | true =>
    have htold : a ∈ x.tellings := by
      rw [← tellings_eq ha]
      exact List.mem_filter.mpr ⟨hm, ht⟩
    obtain ⟨hasked, hmentions⟩ := hx
    unfold Stimulus.tellings at htold
    split at htold <;>
      simp only [List.mem_cons, List.mem_map, List.not_mem_nil, or_false] at htold <;>
      grind [Stimulus.mentions, Stimulus.asked?, Act.Respects]

namespace Keyed

/-- Every act that tells placeholders from other instances keeps the keys theirs. -/
theorem perform (h : s.Keyed keys) {a : Act} (ha : a.Respects keys) :
    (s.perform a).state.Keyed keys := by
  intro name i hi
  cases a with
  | learn record =>
    rw [State.perform, Roster.get?_upsert] at hi
    split at hi
    · next hn =>
      cases hi
      have hc : keys.contains name = false := by simpa [hn, Act.Respects] using ha
      rw [hc, Roster.provisional_learned]
    · exact h name i hi
  | expect key =>
    rw [State.perform, Roster.get?_insertPlaceholder] at hi
    split at hi
    · next hn =>
      cases hi
      rw [hn]
      exact (List.contains_iff_mem.mpr ha).symm
    · exact h name i hi
  | forget n =>
    rw [State.perform, get?_forget] at hi
    split at hi
    · cases hi
    · exact h name i hi
  | route n data =>
    have hi := (Roster.get?_route s.roster n name data).symm.trans hi
    split at hi
    · next hn =>
      cases hi
      cases hg : s.roster.get? n with
      | none =>
        have hc : keys.contains name = false := by simpa [hn, Act.Respects] using ha
        exact hc.symm
      | some j => exact hn ▸ h n j hg
    · exact h name i hi
  | note n news =>
    have hi := (Roster.get?_update s.roster n name news.applyTo).symm.trans hi
    split at hi
    · next hn =>
      obtain ⟨j, hj, rfl⟩ := Option.map_eq_some_iff.mp hi
      rw [(news.applyTo_eq j).2.2.2.2]
      exact hn ▸ h n j hj
    · exact h name i hi
  | terminate =>
    rw [State.perform, terminate] at hi
    split at hi
    · cases hi
    · exact h name i hi
  | _ =>
    obtain ⟨j, hj, he⟩ := (sameFacts_perform s rfl).exists_get? hi
    rw [Instance.provisional_of_facts he]
    exact h name j hj

theorem performAll (h : s.Keyed keys) {as : List Act} (ha : ∀ a ∈ as, a.Respects keys) :
    (s.performAll as).state.Keyed keys := by
  induction as generalizing s with
  | nil => exact h
  | cons a as ih =>
    exact ih (h.perform (ha a List.mem_cons_self)) fun b hb => ha b (List.mem_cons_of_mem a hb)

theorem respond (h : s.Keyed keys) (hs : s.Coherent) (ha : s.isAlive = true) {x : Stimulus}
    (hx : x.Respects keys) : (s.respond x).state.Keyed keys := by
  rw [respond_eq hs.roster]
  exact h.performAll fun a hm => respects_acts hx ha hm

/-- The placeholders in display order. -/
theorem placeholders_eq (h : s.Keyed keys) (hs : s.roster.Consistent) :
    (s.roster.instances.filter fun i => i.provisional).map Instance.name =
      s.roster.order.filter keys.contains := by
  rw [← hs.names_instances, List.filter_map]
  congr 1
  apply List.filter_congr
  intro i hi
  exact h i.name i (hs.get?_of_mem_instances hi)

end Keyed

/-! ## Requests on their way -/

/-- The keys of the requests for instances that are on their way after a run, oldest first: those
that were before it and those that were sent during it, without those that were answered since. -/
def inFlight (s : State) (waiting : List String) : List Stimulus → List String
  | [] => waiting
  | x :: xs =>
    let t := s.respond x
    t.state.inFlight
      (waiting.filter (fun key => x.answered? != some key) ++ Effect.keys t.effects) xs

end State

namespace Stimulus

variable {x : Stimulus}

/-- What is not spoken of is only taken out by the answer to its request. -/
theorem removes_of_not_mentioned {name : String} (hn : name ∉ x.mentions)
    (hx : x ≠ .inbound .sessionEnd) : x.removes name = (x.answered? == some name) := by
  have hne {n : String} (h : name ∉ [n]) : (n == name) = false :=
    beq_false_of_ne fun he => h (List.mem_singleton.mpr he.symm)
  cases x with
  | inbound e =>
    cases e with
    | instanceDelete n => exact hne hn
    | sessionEnd => exact absurd rfl hx
    | _ => rfl
  | event e =>
    cases e with
    | deleted n answer =>
      cases answer with
      | ok u => exact hne hn
      | error e => rfl
    | _ => rfl
  | _ => rfl

/-- What comes in is spoken of or was asked for. -/
theorem mem_introduces {name : String} (h : name ∈ x.introduces) :
    name ∈ x.mentions ∨ x.asked? = some name := by
  unfold introduces at h
  split at h <;> simp_all [mentions, asked?]

end Stimulus

namespace State

variable {keys : List String} {s : State}

/-- An instance does not come in with a stimulus that neither speaks of it nor asks for it. -/
private theorem absent_respond (hs : s.Coherent) (hq : s.Quiet) {x : Stimulus} {name : String}
    (hn : s.roster.contains name = false) (hm : name ∉ x.mentions) (ha : x.asked? ≠ some name) :
    (s.respond x).state.roster.contains name = false := by
  have hi : name ∉ x.introduces := fun h => (Stimulus.mem_introduces h).elim hm ha
  rw [Bool.eq_false_iff, ne_eq, ← (hs.respond x).roster.mem_order, order_respond hs hq,
    List.mem_append, List.mem_filter, hs.roster.mem_order, hn]
  unfold arrivals
  split <;> simp [hi]

/-- Of the names that come in, only that under which an instance is asked for is a key. -/
private theorem arrivals_keys (ha : s.isAlive = true) {x : Stimulus} (hx : x.Respects keys)
    (hnew : ∀ key, x.asked? = some key → s.roster.contains key = false) :
    (s.arrivals x).filter keys.contains = x.asked?.toList := by
  rw [arrivals, if_pos ha]
  cases hq : x.asked? with
  | none =>
    rw [Option.toList_none, List.filter_eq_nil_iff]
    intro name hm
    have hi := List.mem_eraseDups.mp (List.mem_filter.mp hm).1
    rcases Stimulus.mem_introduces hi with h | h
    · simpa using hx.mentions name h
    · rw [hq] at h
      cases h
  | some key =>
    have hi : x.introduces = [key] := by
      unfold Stimulus.asked? at hq
      split at hq
      · cases hq
        rfl
      · cases hq
    have hk : key ∈ keys := hx.asked key hq
    rw [hi]
    simp [List.eraseDups_cons, hnew key hq, hk]

/-- What a response does to the placeholders: that of a request that is answered goes, and that of
a request that is sent comes after all others. -/
theorem order_keys_respond (hs : s.Coherent) (hq : s.Quiet) (ha : s.isAlive = true) {x : Stimulus}
    (hend : x ≠ .inbound .sessionEnd) (hx : x.Respects keys)
    (hnew : ∀ key, x.asked? = some key → s.roster.contains key = false) :
    (s.respond x).state.roster.order.filter keys.contains =
      (s.roster.order.filter keys.contains).filter (fun key => x.answered? != some key) ++
        x.asked?.toList := by
  rw [order_respond hs hq, List.filter_append, arrivals_keys ha hx hnew, List.filter_filter,
    List.filter_filter]
  congr 1
  apply List.filter_congr
  intro name _
  by_cases hn : name ∈ keys
  · have hm : name ∉ x.mentions := fun hm => hx.mentions name hm hn
    rw [Stimulus.removes_of_not_mentioned hm hend, Bool.and_comm]
    rfl
  · have hc : keys.contains name = false := by simpa using hn
    rw [hc, Bool.false_and, Bool.and_false]

/-- As long as the keys are new, the placeholders are those of the requests on their way. -/
private theorem order_keys_run (hs : s.Coherent) (hq : s.Quiet) {xs : List Stimulus}
    (ha : (s.run xs).state.isAlive = true) (hx : ∀ x ∈ xs, x.Respects keys)
    (hdistinct : (xs.filterMap Stimulus.asked?).Nodup)
    (hnew : ∀ key ∈ xs.filterMap Stimulus.asked?, s.roster.contains key = false) :
    (s.run xs).state.roster.order.filter keys.contains =
      s.inFlight (s.roster.order.filter keys.contains) xs := by
  induction xs generalizing s with
  | nil => rfl
  | cons x xs ih =>
    obtain ⟨has, hend⟩ := isAlive_of_run_cons hs ha
    have hxx := hx x List.mem_cons_self
    have hxs : ∀ y ∈ xs, y.Respects keys := fun y hy => hx y (List.mem_cons_of_mem x hy)
    have hkx : ∀ key, x.asked? = some key → s.roster.contains key = false := fun key hk =>
      hnew key (List.mem_filterMap.mpr ⟨x, List.mem_cons_self, hk⟩)
    -- The keys of later requests are not in use yet, since no two requests have the same one.
    have hlater : ∀ key ∈ xs.filterMap Stimulus.asked?,
        (s.respond x).state.roster.contains key = false := by
      intro key hk
      obtain ⟨y, hy, hky⟩ := List.mem_filterMap.mp hk
      have hn := hnew key (List.mem_filterMap.mpr ⟨y, List.mem_cons_of_mem x hy, hky⟩)
      refine absent_respond hs hq hn (fun hm => hxx.mentions key hm ((hxs y hy).asked key hky)) ?_
      intro he
      rw [List.filterMap_cons_some he, List.nodup_cons] at hdistinct
      exact hdistinct.1 hk
    have hrest : (xs.filterMap Stimulus.asked?).Nodup :=
      hdistinct.sublist ((List.sublist_cons_self x xs).filterMap _)
    rw [inFlight, keys_respond hs has, ← order_keys_respond hs hq has hend hxx hkx]
    exact ih (hs.respond x) (quiet_respond hs hq x) ha hxs hrest hlater

theorem keyed_initial (id : String) (setup : Setup) (keys : List String) :
    (initial id setup).Keyed keys := by
  intro name i hi
  simp [initial, Roster.get?] at hi

theorem keyed_run (h : s.Keyed keys) (hs : s.Coherent) {xs : List Stimulus}
    (ha : (s.run xs).state.isAlive = true) (hx : ∀ x ∈ xs, x.Respects keys) :
    (s.run xs).state.Keyed keys := by
  induction xs generalizing s with
  | nil => exact h
  | cons x xs ih =>
    have has := (isAlive_of_run_cons hs ha).1
    exact ih (h.respond hs has (hx x List.mem_cons_self)) (hs.respond x) ha
      fun y hy => hx y (List.mem_cons_of_mem x hy)

/-- The stimuli of a run tell placeholders from other instances if they mention none by the key of a
request. -/
theorem respects_keys {xs : List Stimulus}
    (h : ∀ key ∈ xs.filterMap Stimulus.asked?, ∀ x ∈ xs, key ∉ x.mentions) :
    ∀ x ∈ xs, x.Respects (xs.filterMap Stimulus.asked?) := fun x hx =>
  { asked := fun _ hk => List.mem_filterMap.mpr ⟨x, hx, hk⟩
    mentions := fun name hn hk => h name hk x hx hn }

/-- As long as the session lives, the placeholders stand for the requests on their way, each for its
own, if the keys under which instances are asked for are used for nothing else. -/
theorem placeholders_eq_inFlight (id : String) (setup : Setup) {xs : List Stimulus}
    (ha : ((initial id setup).run xs).state.isAlive = true)
    (hdistinct : (xs.filterMap Stimulus.asked?).Nodup)
    (hkeys : ∀ key ∈ xs.filterMap Stimulus.asked?, ∀ x ∈ xs, key ∉ x.mentions) :
    let s := ((initial id setup).run xs).state
    (s.roster.instances.filter fun i => i.provisional).map Instance.name =
      (initial id setup).inFlight [] xs := by
  intro s
  have hs := Coherent.initial id setup
  have hx := respects_keys hkeys
  have hkeyed := keyed_run (keyed_initial id setup (xs.filterMap Stimulus.asked?)) hs ha hx
  rw [hkeyed.placeholders_eq (hs.run xs).roster]
  exact order_keys_run hs (quiet_initial id setup) ha hx hdistinct fun _ _ => rfl

/-- Of three requests one is answered and one failed, in another order than that in which they were
sent; other instances come and go. -/
theorem placeholders_of_three_requests :
    let xs : List Stimulus :=
      [.bootstrap (.ok { instances := [("a", { name := "a" })] }), .command "k1" (.create {}),
        .command "k2" (.create {}), .inbound (.instanceNew { name := "b" }),
        .event (.created "k2" (.ok { name := "c" })), .command "k3" (.create {}),
        .command "" (.select "k1"), .inbound (.instanceDelete "a"),
        .event (.created "k1" (.error .capacity)), .event (.deleted "b" (.ok ()))]
    let s := ((initial "s1" {}).run xs).state
    s.isAlive = true ∧ (xs.filterMap Stimulus.asked?).Nodup ∧
      (∀ key ∈ xs.filterMap Stimulus.asked?, ∀ x ∈ xs, key ∉ x.mentions) ∧
      (s.roster.instances.filter fun i => i.provisional).map Instance.name =
        (initial "s1" {}).inFlight [] xs ∧
      (initial "s1" {}).inFlight [] xs = ["k3"] := by
  intro xs s
  have ha : s.isAlive = true := by decide +kernel
  have hdistinct : (xs.filterMap Stimulus.asked?).Nodup := by decide
  have hkeys : ∀ key ∈ xs.filterMap Stimulus.asked?, ∀ x ∈ xs, key ∉ x.mentions := by
    decide
  have hlast : (initial "s1" {}).inFlight [] xs = ["k3"] := by decide +kernel
  exact ⟨ha, hdistinct, hkeys, placeholders_eq_inFlight "s1" {} ha hdistinct hkeys, hlast⟩

/-! ## Requests that fail -/

private theorem notices_forget (s : State) (name : String) :
    Effect.notices (s.forget name).effects = [] := by
  obtain ⟨calls, he⟩ := s.forget_eq name
  rw [he]
  exact Effect.notices_map_call calls

private theorem notices_showActs (s t : State) :
    Effect.notices (s.performAll t.showActs).effects = [] := by
  unfold showActs
  split
  · next i _ =>
    rw [performAll_singleton]
    rcases display_cases s i.name with ⟨_, _, -, -, -, hp⟩ | ⟨_, _, _, -, -, -, hp⟩ | ⟨-, hp⟩ <;>
      rw [hp]
    · rfl
    · exact Effect.notices_map_call _
    · rfl
  · rfl

/-- What is done about a request that failed: the placeholder goes, the user is told, and another
instance is shown if none is. -/
private theorem respond_failed (hs : s.Coherent) (ha : s.isAlive = true) (key : String)
    (e : Failure) :
    ∃ t : Step, t.state.roster = (s.forget key).state.roster ∧
      Effect.notices t.effects = [.ofFailure "create" e] ∧
      s.respond (.event (.created key (.error e))) =
        t.andThen fun u => u.performAll (s.forget key).state.showActs := by
  refine ⟨(s.forget key).andThen fun u => u.tell (.ofFailure "create" e), rfl, ?_, ?_⟩
  · rw [Step.andThen, Effect.notices_append, notices_forget]
    rfl
  · rw [respond_eq hs.roster, acts, eventActs, if_pos ha, createdActs, performAll_cons,
      Step.andThen_assoc]
    rfl

/-- If a confirmed instance is shown, another one that is taken out leaves it selected, and nothing
else has to be shown. -/
theorem forget_beside_shown {key : String} {i : Instance}
    (hi : s.roster.selected? = some i) (hp : i.provisional = false)
    (hw : i.screen.isAttached = true) (hne : s.roster.selected ≠ some key) :
    (s.forget key).state.roster.selected = s.roster.selected ∧
      (s.forget key).state.showActs = [] := by
  obtain ⟨name, hsel, hget⟩ := Option.bind_eq_some_iff.mp hi
  have hsel' := selected_forget hne
  have hother : name ≠ key := fun he => hne (he ▸ hsel)
  have hget' : (s.forget key).state.roster.get? name = some i := by
    rw [get?_forget, if_neg hother, hget]
  have hunshown : (s.forget key).state.unshown? = none := by
    simp [unshown?, Roster.selected?, hsel', hsel, hget', hp, hw]
  refine ⟨hsel', ?_⟩
  unfold showActs
  rw [hunshown]

/-- A failure leaves no trace of a request but the notice, compared with a session in which there
was no such request. -/
structure Traceless (e : Failure) (before : State) (t : Step) (alone : State) : Prop where
  names : t.state.roster.names = alone.roster.names
  /-- The same is known about every instance: its record, its usage, roles, ports and status, and
  whether it is confirmed. -/
  known : ∀ name, (t.state.roster.get? name).map Instance.facts =
    (alone.roster.get? name).map Instance.facts
  holders : t.state.roster.holders = alone.roster.holders
  notices : Effect.notices t.effects = [.ofFailure "create" e]
  /-- A confirmed instance that is shown stays selected. -/
  selected : ∀ i, before.roster.selected? = some i → i.provisional = false →
    i.screen.isAttached = true → t.state.roster.selected = before.roster.selected

/-- If a placeholder is a ghost, its request leaves no trace when it fails. -/
private theorem traceless_of_ghost {key : String} {alone : State}
    (h : Ghost key s.roster alone.roster) (hs : s.Coherent) (ha : s.isAlive = true)
    (e : Failure) : Traceless e s (s.respond (.event (.created key (.error e)))) alone := by
  obtain ⟨t, hroster, hnotices, ht⟩ := respond_failed hs ha key e
  have hshown : ∀ a ∈ (s.forget key).state.showActs, a.tells = false := by
    intro a hm
    obtain ⟨name, rfl⟩ := display_of_mem_showActs hm
    rfl
  have hgone : alone.roster.SameFacts t.state.roster := by
    rw [hroster, roster_forget]
    exact h.vanish hs.roster
  have hsame := hgone.trans (sameFacts_performAll t.state hshown)
  rw [ht]
  refine ⟨hsame.order, hsame.known, hsame.holders, ?_, ?_⟩
  · rw [Step.andThen, Effect.notices_append, hnotices, notices_showActs]
    rfl
  · intro i hi hp hw
    have hne : s.roster.selected ≠ some key := by
      intro hsel
      rw [Roster.selected?, hsel, Option.bind_some] at hi
      rw [(h.placeholder i hi).1] at hp
      cases hp
    obtain ⟨hsel, hshow⟩ := forget_beside_shown hi hp hw hne
    rw [hshow, ← hsel, ← hroster]
    rfl

/-- A request that fails leaves nothing but the notice, whatever else happens while it is on its
way. -/
theorem failed_create_traceless (id : String) (setup : Setup) (xs : List Stimulus)
    {key : String} (request : CreateRequest) {others : List Stimulus} (e : Failure)
    (ha : ((initial id setup).run xs).state.isAlive = true)
    (hnew : ((initial id setup).run xs).state.roster.contains key = false)
    (hothers : ∀ x ∈ others, x ≠ .inbound .sessionEnd ∧ key ∉ x.mentions ∧ x.asked? ≠ some key ∧
      x.answered? ≠ some key) :
    let s := ((initial id setup).run xs).state
    let before := (s.run (.command key (.create request) :: others)).state
    let alone := (s.run others).state
    Traceless e before (before.respond (.event (.created key (.error e)))) alone := by
  intro s before alone
  have hs : s.Coherent := coherent_run id setup xs
  let asked := Stimulus.command key (.create request)
  have halive : (s.respond asked).state.isAlive = true :=
    (isAlive_respond hs asked).mpr ⟨ha, by simp [asked]⟩
  have hroster : (s.respond asked).state.roster = s.roster.insertPlaceholder key := by
    rw [respond_eq hs.roster, acts, if_pos ha]
    rfl
  have hstart : Ghost key (s.respond asked).state.roster s.roster := by
    rw [hroster]
    exact Ghost.insertPlaceholder hs.roster hnew
  have hghost : Ghost key before.roster alone.roster :=
    ghost_run hstart (hs.respond asked) hs halive ha hothers
  have hlater : before.isAlive = true :=
    (isAlive_run (hs.respond asked) others).mpr ⟨halive, fun hm => (hothers _ hm).1 rfl⟩
  exact traceless_of_ghost hghost (hs.run _) hlater e

/-- The placeholder is selected while other instances come and go, one of which has the host name
of another. -/
theorem failed_create_among_others :
    let xs : List Stimulus :=
      [.bootstrap (.ok { instances := [("a", { name := "a", hostname := some "host" })] })]
    let others : List Stimulus :=
      [.inbound (.terminalStatus "a" "ready"), .command "" (.select "k1"),
        .inbound (.instanceNew { name := "b", hostname := some "host" }),
        .command "k2" (.create {}), .inbound (.instanceDelete "a"),
        .event (.created "k2" (.ok { name := "c" })), .inbound (.terminalOut "d" []),
        .event (.deleted "c" (.ok ()))]
    let s := ((initial "s1" {}).run xs).state
    let before := (s.run (.command "k1" (.create {}) :: others)).state
    let alone := (s.run others).state
    s.isAlive = true ∧ s.roster.contains "k1" = false ∧
      (∀ x ∈ others, x ≠ .inbound .sessionEnd ∧ "k1" ∉ x.mentions ∧ x.asked? ≠ some "k1" ∧
        x.answered? ≠ some "k1") ∧
      before.roster.names = ["k1", "b", "d"] ∧
      (before.roster.selected?.any fun i => !i.provisional && i.screen.isAttached) = true ∧
      Traceless .capacity before (before.respond (.event (.created "k1" (.error .capacity))))
        alone := by
  intro xs others s before alone
  have ha : s.isAlive = true := by decide +kernel
  have hnew : s.roster.contains "k1" = false := by decide +kernel
  have hothers : ∀ x ∈ others, x ≠ .inbound .sessionEnd ∧ "k1" ∉ x.mentions ∧
      x.asked? ≠ some "k1" ∧ x.answered? ≠ some "k1" := by
    simp [others, Stimulus.mentions, Stimulus.asked?, Stimulus.answered?]
  have hnames : before.roster.names = ["k1", "b", "d"] := by decide +kernel
  have hshown : (before.roster.selected?.any fun i =>
      !i.provisional && i.screen.isAttached) = true := by decide +kernel
  exact ⟨ha, hnew, hothers, hnames, hshown,
    failed_create_traceless "s1" {} xs {} .capacity ha hnew hothers⟩

end State
end TermSync.Session

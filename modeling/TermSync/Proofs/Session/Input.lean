import TermSync.Proofs.Session.Holding
import TermSync.Proofs.Text.Utf8

/-!
# No input is lost

From the moment at which an instance comes in, the text that is sent for its name and the text of
what is still kept make up the text of the input that was accepted for it. Input may be split
anywhere, also inside a character, and sent at any time: what is sent is always cut where nothing
that comes later can change its text.

Main statements: `Instance.takeTyped_text` (what one sending takes), `Keeps.perform` (what one act
adds) and `input_of_lifetime`.
-/

namespace TermSync.Roster.Instance

open Text (Bytes)
open Text.Utf8 (decodeLossy decodeLossy_cut unfinished unfinished_le)

/-- The text that is sent and the text of what is kept make up the text of all that was typed,
whatever is typed later. -/
theorem takeTyped_text (i : Instance) (more : Bytes) :
    decodeLossy (i.typed ++ more) =
      (i.takeTyped.1.map String.toList).getD [] ++ decodeLossy (i.takeTyped.2.typed ++ more) := by
  unfold takeTyped
  dsimp only
  split
  · rfl
  · rw [decodeLossy_cut]
    simp

/-- What is kept is what is held back. -/
theorem typed_takeTyped (i : Instance) :
    i.takeTyped.2.typed = i.typed.drop (i.typed.length - unfinished i.typed) := by
  unfold takeTyped
  dsimp only
  split
  · next hnone => rw [hnone, List.drop_zero]
  · rfl

/-- No more is kept than the first bytes of a character. -/
theorem length_typed_takeTyped (i : Instance) : i.takeTyped.2.typed.length ≤ 3 := by
  have hle := unfinished_le i.typed
  rw [typed_takeTyped, List.length_drop]
  omega

end TermSync.Roster.Instance

namespace TermSync.Session

open Roster (Instance Record)
open Text (Bytes)
open Text.Utf8 (decodeLossy unfinished unfinished_le)

/-- The text that is sent for a name among effects. -/
def Effect.sent (name : String) (effects : List Effect) : List Char :=
  (Effect.emitted effects).flatMap fun
    | .terminalIn n text => if n = name then text.toList else []
    | _ => []

@[simp] theorem Effect.sent_nil (name : String) : Effect.sent name [] = [] := rfl

@[simp] theorem Effect.sent_append (name : String) (es fs : List Effect) :
    Effect.sent name (es ++ fs) = Effect.sent name es ++ Effect.sent name fs := by
  simp [Effect.sent]

private theorem sent_of_silent {effects : List Effect}
    (h : ∀ n text, .terminalIn n text ∉ Effect.emitted effects) (name : String) :
    Effect.sent name effects = [] := by
  rw [Effect.sent, List.flatMap_eq_nil_iff]
  intro e he
  split
  · exact absurd he (h _ _)
  · rfl

/-- The input that an act takes, and for whom. -/
def Act.inputs : Act → List (String × Bytes)
  | .type n data => [(n, data)]
  | _ => []

namespace State

/-- The input for a name that a stimulus brings, if it is accepted. -/
def accepted (name : String) (s : State) : Stimulus → Bytes
  | .command key (.input n data) =>
    match s.execute key (.input n data) with
    | .ok _ => if n = name then data else []
    | .error _ => []
  | _ => []

/-! ## What acts do to input -/

theorem holding_typed : Holding Instance.typed [] where
  ofRecord _ := rfl
  merge _ _ := rfl
  provisional _ := rfl
  note n i := (n.applyTo_eq i).2.2.1
  moveTo _ _ := rfl

/-- The input for a name that was not sent yet. -/
def typed (s : State) (name : String) : Bytes := s.held Instance.typed [] name

theorem typed_of_get? {s : State} {name : String} {i : Instance}
    (h : s.roster.get? name = some i) : s.typed name = i.typed := held_of_get? h

/-- The input for a name that an act takes. -/
def taken (name : String) (s : State) : Act → Bytes
  | .type n data => if n = name ∧ s.roster.contains name = true then data else []
  | _ => []

/-- The input for a name that acts take. -/
def takenAll (name : String) (s : State) : List Act → Bytes
  | [] => []
  | a :: as => s.taken name a ++ (s.perform a).state.takenAll name as

private theorem typed_display (s : State) (n name : String) :
    (s.perform (.display n)).state.typed name = s.typed name := by
  rcases display_cases s n with ⟨i, w, -, -, -, hd⟩ | ⟨i, _, _, -, hi, -, hd⟩ | ⟨-, hd⟩
  · rw [hd]
    rfl
  · have hg := get?_openedRoster s n name i
    rw [hd]
    by_cases hn : name = n
    · subst hn
      rw [if_pos rfl, hi, Option.map_some] at hg
      rw [typed_of_get? hi]
      exact congrArg (fun i => (i.map Instance.typed).getD []) hg
    · rw [if_neg hn] at hg
      exact held_of_eq hg
  · rw [hd]

/-- What is kept for a name when its input is sent. -/
theorem typed_flush (s : State) (name : String) :
    (s.flush name).state.typed name =
      (s.typed name).drop ((s.typed name).length - unfinished (s.typed name)) := by
  cases hi : s.roster.get? name with
  | none =>
    rw [flush_eq_of_none hi, typed, held, hi]
    rfl
  | some i =>
    have hg := Roster.get?_update s.roster name name fun _ => i.takeTyped.2
    rw [if_pos rfl, hi, Option.map_some] at hg
    rw [flush_eq hi, typed_of_get? hi, typed_of_get? (s := s.update name _) hg]
    exact i.typed_takeTyped

/-- If the input of another name is sent, nothing changes for this one. -/
theorem typed_flush_of_ne (s : State) {n name : String} (hn : name ≠ n) :
    (s.flush n).state.typed name = s.typed name := by
  cases hi : s.roster.get? n with
  | none => rw [flush_eq_of_none hi]
  | some i =>
    have hg := Roster.get?_update s.roster n name fun _ => i.takeTyped.2
    rw [if_neg hn] at hg
    rw [flush_eq hi]
    exact held_of_eq hg

/-- Once what was typed is sent, no more is kept than the first bytes of a character. -/
theorem length_typed_flush (s : State) (name : String) :
    ((s.flush name).state.typed name).length ≤ 3 := by
  have hle := unfinished_le (s.typed name)
  rw [typed_flush, List.length_drop]
  omega

private theorem typed_route (s : State) (n name : String) (data : Bytes) :
    (s.perform (.route n data)).state.typed name = s.typed name := by
  unfold typed held
  rw [perform, State.withRoster, Roster.get?_route]
  by_cases hn : name = n
  · subst hn
    rw [if_pos rfl]
    cases s.roster.get? name <;> rfl
  · rw [if_neg hn]

private theorem typed_resizeAll (s : State) (g : Terminal.Geometry) (name : String) :
    (s.resizeAll g).state.typed name = s.typed name := by
  have hg := Roster.get?_resizeAll s.roster g name
  unfold typed held resizeAll
  simp only [hg]
  cases s.roster.get? name <;> rfl

private theorem typed_type (s : State) (n name : String) (data : Bytes) :
    (s.perform (.type n data)).state.typed name =
      s.typed name ++ s.taken name (.type n data) := by
  unfold typed held taken
  rw [perform, update, Roster.get?_update, Roster.contains_eq]
  by_cases hn : name = n
  · subst hn
    cases s.roster.get? name <;> simp [Instance.type]
  · simp [hn, Ne.symm hn]

/-- Only to send what was typed sends input. -/
theorem silent_perform (s : State) {a : Act} (ha : ∀ n, a ≠ .flush n) (name : String)
    (text : String) : .terminalIn name text ∉ Effect.emitted (s.perform a).effects := by
  have hcalls (cs : List Terminal.Call) :
      .terminalIn name text ∉ Effect.emitted (cs.map .call) := by
    simp
  cases a with
  | forget n =>
    obtain ⟨calls, he⟩ := s.forget_eq n
    rw [perform, he]
    exact hcalls calls
  | display n =>
    rcases display_cases s n with ⟨i, w, -, -, -, hd⟩ | ⟨i, _, _, -, -, -, hd⟩ | ⟨-, hd⟩
    · rw [hd]
      exact List.not_mem_nil
    · rw [hd]
      exact hcalls _
    · rw [hd]
      exact List.not_mem_nil
  | route n data => exact hcalls _
  | resizeAll g => exact hcalls _
  | flush n => exact absurd rfl (ha n)
  | terminate =>
    simp only [perform, terminate]
    split
    · rw [Effect.emitted_append, List.mem_append]
      exact not_or.mpr ⟨hcalls _, List.not_mem_nil⟩
    · exact List.not_mem_nil
  | aside a => exact (performAside_apart s a).silent name text
  | _ => exact List.not_mem_nil

private theorem sent_perform (s : State) {a : Act} (ha : ∀ n, a ≠ .flush n) (name : String) :
    Effect.sent name (s.perform a).effects = [] :=
  sent_of_silent (s.silent_perform ha) name

theorem sent_performAll (s : State) {as : List Act} (has : ∀ a ∈ as, ∀ n, a ≠ .flush n)
    (name : String) : Effect.sent name (s.performAll as).effects = [] := by
  induction as generalizing s with
  | nil => rfl
  | cons a as ih =>
    have ha := sent_perform s (has a List.mem_cons_self) name
    rw [performAll_cons, Step.andThen, Effect.sent_append, ha]
    exact ih (s.perform a).state fun b hb => has b (List.mem_cons_of_mem a hb)

theorem typed_perform (s : State) {a : Act} (ha : ∀ n, a ≠ .flush n) {name : String}
    (hr : a.removes name = false) :
    (s.perform a).state.typed name = s.typed name ++ s.taken name a := by
  have still {t : State} (ht : t.typed name = s.typed name) :
      t.typed name = s.typed name ++ [] := ht.trans (List.append_nil _).symm
  cases a with
  | display n => exact still (typed_display s n name)
  | route n data => exact still (typed_route s n name data)
  | resizeAll g => exact still (typed_resizeAll s g name)
  | type n data => exact typed_type s n name data
  | flush n => exact absurd rfl (ha n)
  | terminate => cases hr
  | _ => exact still (held_perform holding_typed s rfl hr)

/-- What was sent, and the text of what is kept, make up the text of the input that was taken,
whatever comes after it. -/
def Keeps (s : State) (name : String) (sent : List Char) (input : Bytes) : Prop :=
  ∀ more, decodeLossy (input ++ more) = sent ++ decodeLossy (s.typed name ++ more)

private theorem Keeps.flush {s : State} (h : s.Coherent) (ha : s.isAlive = true) {name : String}
    {sent : List Char} {input : Bytes} (hk : s.Keeps name sent input) (n : String) :
    (s.flush n).state.Keeps name (sent ++ Effect.sent name (s.flush n).effects) input := by
  intro more
  cases hi : s.roster.get? n with
  | none =>
    rw [flush_eq_of_none hi]
    simpa using hk more
  | some i =>
    have hg := Roster.get?_update s.roster n name fun _ => i.takeTyped.2
    rw [flush_eq hi, if_pos ha, h.roster.named n i hi, hk more]
    by_cases hn : name = n
    · subst hn
      rw [if_pos rfl, hi, Option.map_some] at hg
      rw [typed_of_get? hi, typed_of_get? (s := s.update name _) hg, i.takeTyped_text more]
      cases i.takeTyped.1 with
      | none => simp
      | some text => simp [Effect.sent, Effect.emitted]
    · rw [if_neg hn] at hg
      rw [show (s.update n fun _ => i.takeTyped.2).typed name = s.typed name from held_of_eq hg]
      cases i.takeTyped.1 with
      | none => simp
      | some text => simp [Effect.sent, Effect.emitted, Ne.symm hn]

/-- Every act keeps the account, as long as it does not take the instance out. -/
theorem Keeps.perform {s : State} (h : s.Coherent) (ha : s.isAlive = true) {name : String}
    {sent : List Char} {input : Bytes} (hk : s.Keeps name sent input) {a : Act}
    (hr : a.removes name = false) :
    (s.perform a).state.Keeps name (sent ++ Effect.sent name (s.perform a).effects)
      (input ++ s.taken name a) := by
  by_cases hf : ∃ n, a = .flush n
  · obtain ⟨n, rfl⟩ := hf
    have hflush := hk.flush h ha n
    rwa [← List.append_nil input] at hflush
  · have hne (n : String) : a ≠ .flush n := fun he => hf ⟨n, he⟩
    intro more
    rw [sent_perform s hne, typed_perform s hne hr, List.append_nil, List.append_assoc,
      List.append_assoc]
    exact hk _

theorem Keeps.performAll {s : State} (h : s.Coherent) (ha : s.isAlive = true) {name : String}
    {sent : List Char} {input : Bytes} (hk : s.Keeps name sent input) {as : List Act}
    (hr : ∀ a ∈ as, a.removes name = false) :
    (s.performAll as).state.Keeps name (sent ++ Effect.sent name (s.performAll as).effects)
      (input ++ s.takenAll name as) := by
  induction as generalizing s sent input with
  | nil => simpa [takenAll] using hk
  | cons a as ih =>
    have hra := hr a List.mem_cons_self
    have hne : a ≠ .terminate := by
      intro he
      rw [he] at hra
      cases hra
    have hi := ih (h.perform a) ((isAlive_perform s hne).trans ha) (hk.perform h ha hra)
      fun b hb => hr b (List.mem_cons_of_mem a hb)
    rw [List.append_assoc, List.append_assoc, ← Effect.sent_append] at hi
    exact hi

/-! ## Stimuli -/

theorem takenAll_append (name : String) (s : State) (as bs : List Act) :
    s.takenAll name (as ++ bs) =
      s.takenAll name as ++ (s.performAll as).state.takenAll name bs := by
  induction as generalizing s with
  | nil => rfl
  | cons a as ih =>
    rw [List.cons_append, takenAll, takenAll, ih, List.append_assoc, performAll_cons]
    rfl

private theorem takenAll_of_inputs (name : String) {as : List Act}
    (h : as.flatMap Act.inputs = []) (s : State) : s.takenAll name as = [] := by
  induction as generalizing s with
  | nil => rfl
  | cons a as ih =>
    rw [List.flatMap_cons, List.append_eq_nil_iff] at h
    rw [takenAll, ih h.2, List.append_nil]
    cases a with
    | type n data => cases h.1
    | _ => rfl

/-- Only a command to take input is a reason to take any. -/
theorem inputs_acts (s : State) {x : Stimulus}
    (hx : ∀ key n data, x ≠ .command key (.input n data)) : (s.acts x).flatMap Act.inputs = [] := by
  cases ha : s.isAlive with
  | false =>
    cases x with
    | bootstrap answer => cases answer <;> simp [acts, ha]
    | event e => cases e <;> simp [acts, eventActs, ha, Act.inputs]
    | _ => simp [acts, ha, Act.inputs]
  | true =>
    have hf : Act.Shows Act.inputs :=
      ⟨fun _ => rfl, fun _ => rfl, fun _ => rfl, fun _ _ => rfl, rfl, fun _ => rfl, fun _ => rfl⟩
    rw [flatMap_acts hf ha]
    unfold bringing
    split <;> simp_all [Act.inputs, List.flatMap_map]

private theorem takenAll_input (name : String) (s : State) (key n : String) (data : Bytes) :
    s.takenAll name (s.acts (.command key (.input n data))) =
      s.accepted name (.command key (.input n data)) := by
  simp only [acts, accepted, execute, commandActs]
  cases s.isAlive with
  | false => rfl
  | true =>
    cases hg : s.roster.get? n with
    | none => rfl
    | some i =>
      have hc : s.roster.contains n = true := Roster.contains_of_get? hg
      cases hi : i.screen.isAttached with
      | false => simp [hi, takenAll]
      | true =>
        by_cases hn : n = name
        · subst hn
          simp [hi, takenAll, taken, hc]
        · simp [hi, takenAll, taken, hn]

/-- The input that is taken about a stimulus is that which is accepted. -/
theorem takenAll_acts (name : String) (s : State) (x : Stimulus) :
    s.takenAll name (s.acts x) = s.accepted name x := by
  by_cases hx : ∃ key n data, x = .command key (.input n data)
  · obtain ⟨key, n, data, rfl⟩ := hx
    exact takenAll_input name s key n data
  · have hne : ∀ key n data, x ≠ .command key (.input n data) := fun key n data he =>
      hx ⟨key, n, data, he⟩
    rw [takenAll_of_inputs name (inputs_acts s hne)]
    unfold accepted
    split
    · exact absurd rfl (hne _ _ _)
    · rfl

/-- The input that is taken during a run is that which is accepted. -/
theorem takenAll_deeds {s : State} (h : s.Coherent) (name : String) (xs : List Stimulus) :
    s.takenAll name (s.deeds xs) = s.gather (accepted name) xs := by
  induction xs generalizing s with
  | nil => rfl
  | cons x xs ih =>
    rw [deeds, gather, takenAll_append, takenAll_acts, ← respond_eq h.roster, ih (h.respond x)]

/-- The account of a lifetime. -/
theorem keeps_lifetime {s : State} (h : s.Coherent) {name : String} {x : Stimulus}
    (hx : name ∈ s.arrivals x) {life : List Stimulus}
    (hl : ∀ y ∈ life, y.removes name = false) :
    (s.run (x :: life)).state.Keeps name (Effect.sent name (s.run (x :: life)).effects)
      (s.gather (accepted name) (x :: life)) := by
  obtain ⟨as, bs, hdeeds, has, hnone, hbs⟩ := deeds_of_lifetime hx hl
  have halive : (s.performAll as).state.isAlive = true :=
    (isAlive_performAll fun a ha => by rw [has a ha]; simp).trans (isAlive_of_arrivals hx)
  have hnothing : (s.performAll as).state.Keeps name [] [] := by
    intro more
    rw [typed, held, hnone]
    rfl
  have hkeeps := hnothing.performAll (h.performAll as) halive hbs
  have hsent : Effect.sent name (s.performAll as).effects = [] :=
    sent_performAll s (fun a ha n => by rw [has a ha]; simp) name
  have hinputs : as.flatMap Act.inputs = [] :=
    List.flatMap_eq_nil_iff.mpr fun a ha => by rw [has a ha]; rfl
  rw [← takenAll_deeds h, hdeeds, takenAll_append, takenAll_of_inputs name hinputs, run_eq h,
    hdeeds, performAll_append, Step.andThen, Effect.sent_append, hsent]
  exact hkeeps

/-- What was sent and what is kept by the end of a lifetime. -/
private theorem sent_lifetime {s : State} (h : s.Coherent) {name : String} {x : Stimulus}
    (hx : name ∈ s.arrivals x) {life : List Stimulus}
    (hl : ∀ y ∈ life, y.removes name = false) :
    Effect.sent name (s.run (x :: life)).effects ++
        decodeLossy ((s.run (x :: life)).state.typed name) =
      decodeLossy (s.gather (accepted name) (x :: life)) := by
  have hkeeps := keeps_lifetime h hx hl []
  rw [List.append_nil, List.append_nil] at hkeeps
  exact hkeeps.symm

/-- In every run and for every lifetime of an instance in it, the text that was sent for its name
since it came in and the text of what is still kept make up the text of the input that was accepted
for it; and when it is time to send again, no more is kept than the first bytes of a character. -/
theorem input_of_lifetime (id : String) (setup : Setup) (earlier : List Stimulus) (x : Stimulus)
    (life : List Stimulus) (name : String)
    (hx : name ∈ ((initial id setup).run earlier).state.arrivals x)
    (hl : ∀ y ∈ life, y.removes name = false) :
    let s := ((initial id setup).run earlier).state
    ∃ i, (s.run (x :: life)).state.roster.get? name = some i ∧
      Effect.sent name (s.run (x :: life)).effects ++ decodeLossy i.typed =
        decodeLossy (s.gather (accepted name) (x :: life)) ∧
      (((s.run (x :: life)).state.respond (.event (.flushTick name))).state.typed name).length ≤
        3 := by
  intro s
  have h : s.Coherent := coherent_run id setup earlier
  have hq : s.Quiet := quiet_run id setup earlier
  obtain ⟨i, hi⟩ := exists_of_lifetime h hq hx hl
  have hsent := sent_lifetime h hx hl
  rw [typed_of_get? hi] at hsent
  exact ⟨i, hi, hsent, length_typed_flush (s.run (x :: life)).state name⟩

/-- Input that is split inside a character and sent in between. -/
theorem input_split_in_character :
    let x : Stimulus := .inbound (.instanceNew (.named "a"))
    let life : List Stimulus :=
      [.command "k" (.input "a" [0x78, 0xE2, 0x82]), .event (.flushTick "a"),
        .command "k" (.input "a" [0xAC, 0xC3]), .event (.flushTick "a")]
    "a" ∈ (initial "s1" {}).arrivals x ∧ (∀ y ∈ life, y.removes "a" = false) ∧
      ∃ i, ((initial "s1" {}).run (x :: life)).state.roster.get? "a" = some i ∧
        Effect.sent "a" ((initial "s1" {}).run (x :: life)).effects ++ decodeLossy i.typed =
          decodeLossy [0x78, 0xE2, 0x82, 0xAC, 0xC3] ∧
        ((((initial "s1" {}).run (x :: life)).state.respond
          (.event (.flushTick "a"))).state.typed "a").length ≤ 3 :=
  ⟨by decide +kernel, by decide +kernel,
    input_of_lifetime "s1" {} [] _ _ "a" (by decide +kernel) (by decide +kernel)⟩

end State
end TermSync.Session

import TermSync.Proofs.Session.Input
import TermSync.Proofs.Text.Encoding

/-!
# Encoded input

Of input that is encoded text, what is sent is cut between characters: at any time all of the text
that is complete is sent, and the first bytes of one more character are kept. So the messages of a
lifetime, one after the other, are the beginning of the text, and no character in them is a
substitute. Of any other bytes no more than three are kept, and no message is empty.

Main statements: `Instance.takeTyped_encode`, `Instance.ne_empty_of_takeTyped`,
`messages_of_lifetime` and `input_cut_between_characters`.
-/

namespace TermSync.Roster.Instance

open Text (Bytes)
open Text.Utf8 (Begun decodeLossy_encode decodeLossy_ne_nil encode unfinished_of_begun)

/-- All of the characters that are complete are sent, and the bytes of one that is not are kept. -/
theorem takeTyped_encode {i : Instance} {text : List Char} {begun : Bytes}
    (h : i.typed = encode text ++ begun) (hb : Begun begun) :
    i.takeTyped =
      (if text = [] then none else some (String.ofList text), { i with typed := begun }) := by
  have hcount : i.typed.length - Text.Utf8.unfinished i.typed = (encode text).length := by
    rw [h, unfinished_of_begun text hb, List.length_append, Nat.add_sub_cancel]
  unfold takeTyped
  dsimp only
  rw [hcount, h, List.take_left, List.drop_left, decodeLossy_encode]
  cases text with
  | nil =>
    have hi : i = { i with typed := begun } := by
      rw [← show i.typed = begun from h]
    exact congrArg (none, ·) hi
  | cons c cs =>
    have hpos : (encode (c :: cs)).length ≠ 0 := by
      rw [show encode (c :: cs) = String.utf8EncodeChar c ++ encode cs from List.flatMap_cons,
        List.length_append]
      have hc := c.utf8Size_pos
      rw [← String.length_utf8EncodeChar] at hc
      omega
    rw [if_neg hpos, if_neg (List.cons_ne_nil c cs)]

/-- No message is empty. -/
theorem ne_empty_of_takeTyped {i : Instance} {text : String} (h : text ∈ i.takeTyped.1) :
    text ≠ "" := by
  unfold takeTyped at h
  dsimp only at h
  split at h
  · cases h
  · next hcount =>
    have hne : i.typed.take (i.typed.length - Text.Utf8.unfinished i.typed) ≠ [] := by
      rw [← List.length_pos_iff, List.length_take]
      omega
    obtain rfl := Option.mem_some.mp h
    intro hempty
    exact decodeLossy_ne_nil hne (String.toList_ofList.symm.trans (congrArg String.toList hempty))

end TermSync.Roster.Instance

namespace TermSync.Session

open Roster (Instance Record)
open Text (Bytes)
open Text.Utf8 (Begun decodeLossy decodeLossy_encode encode lookBack? unfinished)

/-- The messages that are sent for a name among effects. -/
def Effect.messages (name : String) (effects : List Effect) : List String :=
  (Effect.emitted effects).filterMap fun
    | .terminalIn n text => if n = name then some text else none
    | _ => none

/-- One after the other, they are the text that is sent. -/
theorem Effect.sent_eq (name : String) (effects : List Effect) :
    Effect.sent name effects = (Effect.messages name effects).flatMap String.toList := by
  unfold sent messages
  induction Effect.emitted effects with
  | nil => rfl
  | cons e es ih =>
    rw [List.flatMap_cons, ih]
    cases e with
    | terminalIn n text =>
      by_cases hn : n = name
      · simp [hn]
      · simp [hn]
    | _ => rfl

namespace State

private theorem ne_empty_perform (s : State) (a : Act) {name text : String}
    (h : .terminalIn name text ∈ Effect.emitted (s.perform a).effects) : text ≠ "" := by
  by_cases hf : ∃ n, a = .flush n
  · obtain ⟨n, rfl⟩ := hf
    rw [perform] at h
    cases hi : s.roster.get? n with
    | none =>
      rw [flush_eq_of_none hi] at h
      cases h
    | some i =>
      rw [flush_eq hi] at h
      cases ht : i.takeTyped.1 with
      | none => simp [ht] at h
      | some sent =>
        have hsent : text = sent := by
          cases ha : s.isAlive <;> simp [ht, ha, Effect.emitted] at h
          exact h.2
        rw [hsent]
        exact Instance.ne_empty_of_takeTyped ht
  · exact absurd h (s.silent_perform (fun n he => hf ⟨n, he⟩) name text)

private theorem ne_empty_performAll (s : State) (as : List Act) {name text : String}
    (h : .terminalIn name text ∈ Effect.emitted (s.performAll as).effects) : text ≠ "" := by
  induction as generalizing s with
  | nil => cases h
  | cons a as ih =>
    rw [performAll_cons, Step.andThen, Effect.emitted_append, List.mem_append] at h
    exact h.elim (s.ne_empty_perform a) (ih _)

/-- In every run, no message is empty. -/
theorem ne_empty_of_message {s : State} (h : s.Coherent) (xs : List Stimulus) {name text : String}
    (hm : text ∈ Effect.messages name (s.run xs).effects) : text ≠ "" := by
  obtain ⟨e, he, ht⟩ := List.mem_filterMap.mp hm
  rw [run_eq h] at he
  split at ht
  · split at ht
    · obtain rfl := Option.some.inj ht
      exact ne_empty_performAll s _ he
    · cases ht
  · cases ht

/-- What a flush tick sends of an instance whose input is encoded text, and what it keeps. -/
theorem respond_flushTick_encode {s : State} (h : s.Coherent) (ha : s.isAlive = true)
    {name : String} {i : Instance} (hi : s.roster.get? name = some i) {text : List Char}
    {begun : Bytes} (ht : i.typed = encode text ++ begun) (hb : Begun begun) :
    s.respond (.event (.flushTick name)) =
      { state := s.update name fun _ => { i with typed := begun }
        effects := if text = [] then [] else [.emit (.terminalIn name (String.ofList text))] } := by
  show s.flush name = _
  rw [flush_eq hi, Instance.takeTyped_encode ht hb, if_pos ha, h.roster.named name i hi]
  by_cases htext : text = []
  · rw [if_pos htext, if_pos htext]
    rfl
  · rw [if_neg htext, if_neg htext]
    rfl

/-! ## The bytes that are kept -/

/-- What is kept for a name are the last of the bytes that were taken for it. -/
private theorem suffix_perform {s : State} {name : String} {input : Bytes}
    (h : s.typed name <:+ input) {a : Act} (hr : a.removes name = false) :
    (s.perform a).state.typed name <:+ input ++ s.taken name a := by
  by_cases hf : ∃ n, a = .flush n
  · obtain ⟨n, rfl⟩ := hf
    have hless : (s.flush n).state.typed name <:+ s.typed name := by
      by_cases hn : name = n
      · subst hn
        rw [typed_flush]
        exact List.drop_suffix _ _
      · exact ⟨[], typed_flush_of_ne s hn⟩
    rw [show s.taken name (.flush n) = [] from rfl, List.append_nil]
    exact hless.trans h
  · obtain ⟨before, rfl⟩ := h
    rw [typed_perform s (fun n he => hf ⟨n, he⟩) hr, List.append_assoc]
    exact List.suffix_append before _

private theorem suffix_performAll {s : State} {name : String} {input : Bytes}
    (h : s.typed name <:+ input) {as : List Act} (hr : ∀ a ∈ as, a.removes name = false) :
    (s.performAll as).state.typed name <:+ input ++ s.takenAll name as := by
  induction as generalizing s input with
  | nil => simpa [takenAll] using h
  | cons a as ih =>
    have hrest := ih (suffix_perform h (hr a List.mem_cons_self))
      fun b hb => hr b (List.mem_cons_of_mem a hb)
    rw [List.append_assoc] at hrest
    exact hrest

/-- What is kept at the end of a lifetime are the last of the bytes that were accepted in it. -/
theorem suffix_lifetime {s : State} (h : s.Coherent) {name : String} {x : Stimulus}
    (hx : name ∈ s.arrivals x) {life : List Stimulus} (hl : ∀ y ∈ life, y.removes name = false) :
    (s.run (x :: life)).state.typed name <:+ s.gather (accepted name) (x :: life) := by
  obtain ⟨as, bs, hdeeds, has, hnone, hbs⟩ := deeds_of_lifetime hx hl
  have hnothing : (s.performAll as).state.typed name <:+ [] := by
    rw [typed, held, hnone]
    exact List.suffix_refl []
  have hrest := suffix_performAll hnothing hbs
  rw [← takenAll_deeds h, hdeeds, takenAll_append, run_eq h, hdeeds, performAll_append]
  exact hrest.trans (List.suffix_append _ _)

/-! ## What is sent during a lifetime -/

/-- If the input of a lifetime is the beginning of an encoded text, the messages are the beginning
of the text. -/
theorem messages_of_lifetime {s : State} (h : s.Coherent) {name : String} {x : Stimulus}
    (hx : name ∈ s.arrivals x) {life : List Stimulus}
    (hl : ∀ y ∈ life, y.removes name = false) {text : List Char} {more : Bytes}
    (ht : s.gather (accepted name) (x :: life) ++ more = encode text) :
    text = (Effect.messages name (s.run (x :: life)).effects).flatMap String.toList ++
      decodeLossy ((s.run (x :: life)).state.typed name ++ more) := by
  rw [← Effect.sent_eq, ← keeps_lifetime h hx hl more, ht, decodeLossy_encode]

/-- When it is time to send an instance's input, all of its encoded text that is complete is sent,
as one message unless there is none of it, and what was begun of the next character is kept. Of any
bytes no more than three are kept, at a position that lies within them, and what is sent is not
empty. In every run and for every lifetime of an instance in it, however the bytes of a text are
split into input that is accepted for it, and whatever is sent in between, the messages are its
first characters, each of them as it is in the text, and none of them is empty. -/
theorem input_cut_between_characters (id : String) (setup : Setup) (earlier : List Stimulus) :
    let s := ((initial id setup).run earlier).state
    (∀ (i : Instance) (text : List Char) (begun : Bytes),
      i.typed = encode text ++ begun → Begun begun →
        i.takeTyped =
          (if text = [] then none else some (String.ofList text), { i with typed := begun }) ∧
        ∀ name, s.isAlive = true → s.roster.get? name = some i →
          (s.respond (.event (.flushTick name))).effects =
            (if text = [] then [] else [.emit (.terminalIn name (String.ofList text))]) ∧
          (s.respond (.event (.flushTick name))).state.typed name = begun) ∧
      (∀ i : Instance,
        lookBack? i.typed 1 (min i.typed.length 3) = some (unfinished i.typed) ∧
          unfinished i.typed ≤ i.typed.length ∧ i.takeTyped.2.typed.length ≤ 3 ∧
          ∀ text ∈ i.takeTyped.1, text ≠ "") ∧
      ∀ (x : Stimulus) (life : List Stimulus) (name : String) (text : List Char) (more : Bytes),
        name ∈ s.arrivals x → (∀ y ∈ life, y.removes name = false) →
        s.gather (accepted name) (x :: life) ++ more = encode text →
          text = (Effect.messages name (s.run (x :: life)).effects).flatMap String.toList ++
            decodeLossy ((s.run (x :: life)).state.typed name ++ more) ∧
          ∀ message ∈ Effect.messages name (s.run (x :: life)).effects, message ≠ "" := by
  intro s
  have h : s.Coherent := coherent_run id setup earlier
  refine ⟨fun i text begun ht hb => ⟨Instance.takeTyped_encode ht hb, ?_⟩, ?_, ?_⟩
  · intro name ha hi
    rw [respond_flushTick_encode h ha hi ht hb]
    refine ⟨rfl, ?_⟩
    have hg := Roster.get?_update s.roster name name fun _ => { i with typed := begun }
    rw [if_pos rfl, hi, Option.map_some] at hg
    exact typed_of_get? (s := s.update name _) hg
  · intro i
    exact ⟨Text.Utf8.lookBack?_eq i.typed, Text.Utf8.unfinished_le_length i.typed,
      i.length_typed_takeTyped, fun text => Instance.ne_empty_of_takeTyped⟩
  · intro x life name text more hx hl ht
    exact ⟨messages_of_lifetime h hx hl ht, fun m => ne_empty_of_message h (x :: life)⟩

/-- A text of which two characters are split, sent in between. -/
theorem input_cut_in_two_characters :
    let x : Stimulus := .inbound (.instanceNew (.named "a"))
    let life : List Stimulus :=
      [.command "k" (.input "a" [0x78, 0xE2, 0x82]), .event (.flushTick "a"),
        .command "k" (.input "a" [0xAC, 0xF0]), .event (.flushTick "a")]
    let s := ((initial "s1" {}).run []).state
    let i : Instance := { Instance.ofRecord (.named "a") with typed := [0x78, 0xE2, 0x82] }
    (i.typed = encode ['x'] ++ [0xE2, 0x82] ∧ Begun [0xE2, 0x82] ∧
        i.takeTyped = (some "x", { i with typed := [0xE2, 0x82] })) ∧
      "a" ∈ s.arrivals x ∧ (∀ y ∈ life, y.removes "a" = false) ∧
      s.gather (accepted "a") (x :: life) ++ [0x9F, 0x98, 0x80] = encode ['x', '€', '😀'] ∧
      Effect.messages "a" (s.run (x :: life)).effects = ["x", "€"] ∧
      ['x', '€', '😀'] =
        (Effect.messages "a" (s.run (x :: life)).effects).flatMap String.toList ++
          decodeLossy ((s.run (x :: life)).state.typed "a" ++ [0x9F, 0x98, 0x80]) := by
  have hbegun : Begun [0xE2, 0x82] := ⟨'€', [0xAC], by decide, by decide⟩
  obtain ⟨htake, -, hmessages⟩ := input_cut_between_characters "s1" {} []
  refine ⟨⟨by decide, hbegun, ?_⟩, by decide +kernel, by decide +kernel, by decide +kernel,
    by decide +kernel, ?_⟩
  · exact (htake _ ['x'] [0xE2, 0x82] (by decide) hbegun).1
  · exact (hmessages _ _ "a" _ _ (by decide +kernel) (by decide +kernel) (by decide +kernel)).1

end State
end TermSync.Session

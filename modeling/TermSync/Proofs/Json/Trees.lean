import TermSync.Proofs.Json.Tokens

/-!
# Values, written and read

A value is written without blanks, and what is written is read as the tree of the value: its items
and members in order, its strings and integers as they were. Doubles are left out: the reader may
take another double from their digits.

Main statements: `readNode_write` (in front of any text that does not go on with it) and
`ofText?_toText`.
-/

namespace TermSync.Json

mutual

/-- The tree of a value as it is written, if every number in it is an integer. -/
def Value.toNode? : Value → Option Node
  | .null => some .null
  | .bool b => some (.bool b)
  | .number (.integer i) => some (.number (numeralOf i))
  | .number (.double _) => none
  | .text s => some (.text (some s))
  | .array items => (itemsToNodes? items).map .array
  | .object members => (membersToNodes? members).map .object

/-- The trees of an array's items. -/
def itemsToNodes? : List Value → Option (List Node)
  | [] => some []
  | v :: vs =>
    match v.toNode?, itemsToNodes? vs with
    | some n, some ns => some (n :: ns)
    | _, _ => none

/-- The trees of an object's members. -/
def membersToNodes? : List (String × Value) → Option (List (Option String × Node))
  | [] => some []
  | (key, v) :: ms =>
    match v.toNode?, membersToNodes? ms with
    | some n, some ns => some ((some key, n) :: ns)
    | _, _ => none

end

/-- Whether a value is read from what is written for it, in front of any text that does not go on
with it and with as much fuel as the reader has. -/
def Value.IsRead (v : Value) : Prop :=
  ∀ (n : Node) (fuel : Nat) (rest : List Char), v.toNode? = some n →
    2 * v.write.length ≤ fuel → EndsNumber rest → readNode fuel (v.write ++ rest) = some (n, rest)

/-! ## First characters -/

private theorem skipBlank_cons {c : Char} (h : isBlank c = false) (cs : List Char) :
    skipBlank (c :: cs) = c :: cs := by
  simp [skipBlank, h]

/-- Whether a character starts a number. -/
def startsNumber (c : Char) : Bool := c == '-' || c.isDigit

private theorem ne_of_startsNumber {c d : Char} (hc : startsNumber c = true)
    (hd : startsNumber d = false) : c ≠ d := by
  rintro rfl
  exact Bool.false_ne_true (hd.symm.trans hc)

private theorem isBlank_of_startsNumber {c : Char} (h : startsNumber c = true) :
    isBlank c = false := by
  have hblanks : c ≠ ' ' ∧ c ≠ '\t' ∧ c ≠ '\n' ∧ c ≠ '\r' :=
    ⟨ne_of_startsNumber h rfl, ne_of_startsNumber h rfl, ne_of_startsNumber h rfl,
      ne_of_startsNumber h rfl⟩
  simp [isBlank, hblanks]

private theorem readNode_of_startsNumber {c : Char} (h : startsNumber c = true) (fuel : Nat)
    (cs : List Char) : readNode (fuel + 1) (c :: cs) =
      match readNumeral (c :: cs) with
      | some (n, r) => some (.number n, r)
      | none => none := by
  have hother {d : Char} {r : List Char} (hd : startsNumber d = false) : c :: cs ≠ d :: r :=
    fun heq => ne_of_startsNumber h hd (List.cons.inj heq).1
  rw [readNode, skipBlank_cons (isBlank_of_startsNumber h)]
  split
  case h_7 => rfl
  -- no other value starts as a number does
  all_goals
    next heq => exact absurd heq (hother (by decide))

/-- An integer is written with a sign or a digit in front. -/
theorem writeInteger_eq_cons (i : Int) :
    ∃ c cs, writeInteger i = c :: cs ∧ startsNumber c = true := by
  by_cases hi : i < 0
  · exact ⟨'-', Nat.toDigits 10 i.natAbs, if_pos hi, rfl⟩
  · obtain ⟨c, cs, hcs, hc⟩ := toDigits_eq_cons i.natAbs
    exact ⟨c, cs, (if_neg hi).trans hcs, by simp [startsNumber, hc]⟩

/-- What is written for a value starts with no blank, and does not close an array. -/
private theorem write_eq_cons {v : Value} {n : Node} (h : v.toNode? = some n) :
    ∃ c cs, v.write = c :: cs ∧ isBlank c = false ∧ c ≠ ']' := by
  match v, h with
  | .null, _ => exact ⟨_, _, Value.write.eq_1, by decide, by decide⟩
  | .bool true, _ => exact ⟨_, _, Value.write.eq_2, by decide, by decide⟩
  | .bool false, _ => exact ⟨_, _, Value.write.eq_3, by decide, by decide⟩
  | .number (.integer i), _ =>
    obtain ⟨c, cs, hcs, hc⟩ := writeInteger_eq_cons i
    refine ⟨c, cs, by simp [Value.write, writeNumber, hcs], isBlank_of_startsNumber hc, ?_⟩
    rintro rfl
    cases hc
  | .text s, _ => exact ⟨_, _, by rw [Value.write, quote, List.cons_append], by decide, by decide⟩
  | .array [], _ => exact ⟨_, _, by rw [Value.write], by decide, by decide⟩
  | .array (_ :: _), _ => exact ⟨_, _, by rw [Value.write, List.cons_append], by decide, by decide⟩
  | .object [], _ => exact ⟨_, _, by rw [Value.write], by decide, by decide⟩
  | .object ((_, _) :: _), _ =>
    exact ⟨_, _, by rw [Value.write, List.cons_append, List.cons_append], by decide, by decide⟩

/-! ## Values -/

private theorem quote_append (s : String) (rest : List Char) :
    quote s ++ rest = '"' :: (s.toList.flatMap escape ++ '"' :: rest) := by
  simp [quote]

private theorem isRead_integer (i : Int) : (Value.number (.integer i)).IsRead := by
  rintro n fuel rest hn hfuel hrest
  obtain rfl : Node.number (numeralOf i) = n := by simpa [Value.toNode?] using hn
  obtain ⟨c, cs, hcs, hc⟩ := writeInteger_eq_cons i
  have hwritten : (Value.number (.integer i)).write = writeInteger i := by
    rw [Value.write, writeNumber]
  have hread := readNumeral_writeInteger i hrest
  rw [hwritten, hcs] at hfuel
  rw [hwritten]
  rw [hcs, List.cons_append] at hread ⊢
  cases fuel with
  | zero => simp at hfuel
  | succ fuel => rw [readNode_of_startsNumber hc, hread]

/-- A value that needs one step of the reader only. -/
private theorem isRead_of_step {v : Value} {n : Node} (hv : v.toNode? = some n)
    (hne : v.write ≠ [])
    (hstep : ∀ fuel rest, readNode (fuel + 1) (v.write ++ rest) = some (n, rest)) : v.IsRead := by
  intro m fuel rest hm hfuel _
  obtain rfl : n = m := Option.some.inj (hv.symm.trans hm)
  have hpos := List.length_pos_iff.mpr hne
  obtain ⟨fuel, rfl⟩ : ∃ f, fuel = f + 1 := ⟨fuel - 1, by omega⟩
  exact hstep fuel rest

private theorem isRead_null : Value.null.IsRead :=
  isRead_of_step rfl (by simp [Value.write]) fun _ _ => rfl

private theorem isRead_bool (b : Bool) : (Value.bool b).IsRead := by
  cases b
  · exact isRead_of_step rfl (by simp [Value.write]) fun _ _ => rfl
  · exact isRead_of_step rfl (by simp [Value.write]) fun _ _ => rfl

private theorem isRead_text (s : String) : (Value.text s).IsRead := by
  refine isRead_of_step rfl (by simp [Value.write, quote]) fun fuel rest => ?_
  simp only [Value.write, quote_append, readNode, skipBlank_cons (show isBlank '"' = false by rfl),
    readText_quote]

/-! ## Arrays -/

private theorem readNode_bracket {c : Char} (hblank : isBlank c = false) (hc : c ≠ ']')
    (fuel : Nat) (cs : List Char) :
    readNode (fuel + 1) ('[' :: c :: cs) = readItems fuel [] (c :: cs) := by
  simp only [readNode, skipBlank_cons (show isBlank '[' = false by rfl), skipBlank_cons hblank]
  split
  · next heq => exact absurd (List.cons.inj heq).1 hc
  · rfl

private theorem readItems_comma {fuel : Nat} {cs r : List Char} {n : Node}
    (h : readNode fuel cs = some (n, ',' :: r)) (acc : List Node) :
    readItems (fuel + 1) acc cs = readItems fuel (n :: acc) r := by
  simp only [readItems, h, skipBlank_cons (show isBlank ',' = false by rfl)]

private theorem readItems_end {fuel : Nat} {cs r : List Char} {n : Node}
    (h : readNode fuel cs = some (n, ']' :: r)) (acc : List Node) :
    readItems (fuel + 1) acc cs = some (.array (acc.reverse ++ [n]), r) := by
  simp only [readItems, h, skipBlank_cons (show isBlank ']' = false by rfl), List.reverse_cons]

/-- The trees of a first item and of those that follow it. -/
private theorem itemsToNodes?_cons {v : Value} {vs : List Value} {ns : List Node}
    (h : itemsToNodes? (v :: vs) = some ns) :
    ∃ m ms, v.toNode? = some m ∧ itemsToNodes? vs = some ms ∧ ns = m :: ms := by
  rw [itemsToNodes?] at h
  split at h
  · next m ms hm hms => exact ⟨m, ms, hm, hms, (Option.some.inj h).symm⟩
  · cases h

/-- The items of an array are read one by one, up to its end. -/
private theorem readItems_write {v : Value} {vs : List Value} {n : Node} {ns acc : List Node}
    {fuel : Nat} {rest : List Char} (hv : v.IsRead) (hvs : ∀ w ∈ vs, w.IsRead)
    (hn : v.toNode? = some n) (hns : itemsToNodes? vs = some ns)
    (hfuel : 2 * (v.write.length + (writeItems vs).length) ≤ fuel) :
    readItems fuel acc (v.write ++ (writeItems vs ++ rest)) =
      some (.array (acc.reverse ++ n :: ns), rest) := by
  induction vs generalizing v n ns acc fuel with
  | nil =>
    obtain rfl : [] = ns := by simpa [itemsToNodes?] using hns
    rw [writeItems, List.length_singleton] at hfuel
    obtain ⟨fuel, rfl⟩ : ∃ f, fuel = f + 1 := ⟨fuel - 1, by omega⟩
    have hread := hv _ _ _ hn (show 2 * v.write.length ≤ fuel by omega)
      (EndsNumber.cons ']' rest (by decide))
    exact readItems_end hread acc
  | cons w ws ih =>
    obtain ⟨m, ms, hm, hms, rfl⟩ := itemsToNodes?_cons hns
    obtain ⟨hw, hws⟩ := List.forall_mem_cons.mp hvs
    have hwritten : writeItems (w :: ws) ++ rest = ',' :: (w.write ++ (writeItems ws ++ rest)) := by
      simp [writeItems]
    have hlength : (writeItems (w :: ws)).length = w.write.length + (writeItems ws).length + 1 := by
      simp [writeItems]
    rw [hlength] at hfuel
    obtain ⟨fuel, rfl⟩ : ∃ f, fuel = f + 1 := ⟨fuel - 1, by omega⟩
    have hread := hv _ _ _ hn (show 2 * v.write.length ≤ fuel by omega)
      (EndsNumber.cons ',' (w.write ++ (writeItems ws ++ rest)) (by decide))
    rw [hwritten, readItems_comma hread, ih hw hws hm hms (by omega), List.reverse_cons,
      List.append_assoc, List.singleton_append]

private theorem isRead_array {vs : List Value} (hvs : ∀ w ∈ vs, w.IsRead) :
    (Value.array vs).IsRead := by
  cases vs with
  | nil => exact isRead_of_step rfl (by simp [Value.write]) fun _ _ => rfl
  | cons v vs =>
    intro n fuel rest hn hfuel _
    obtain ⟨ns, hns, rfl⟩ : ∃ ns, itemsToNodes? (v :: vs) = some ns ∧ Node.array ns = n := by
      simpa [Value.toNode?] using hn
    obtain ⟨m, ms, hm, hms, rfl⟩ := itemsToNodes?_cons hns
    obtain ⟨hv, hvs⟩ := List.forall_mem_cons.mp hvs
    have hwritten : (Value.array (v :: vs)).write = '[' :: (v.write ++ writeItems vs) := by
      rw [Value.write, List.cons_append]
    rw [hwritten, List.length_cons, List.length_append] at hfuel
    obtain ⟨fuel, rfl⟩ : ∃ f, fuel = f + 1 := ⟨fuel - 1, by omega⟩
    obtain ⟨c, cs, hcs, hblank, hc⟩ := write_eq_cons hm
    have hread : readItems fuel [] (v.write ++ (writeItems vs ++ rest)) =
        some (.array (m :: ms), rest) := readItems_write hv hvs hm hms (by omega)
    rw [hwritten, List.cons_append, List.append_assoc]
    rw [hcs, List.cons_append] at hread ⊢
    rw [readNode_bracket hblank hc, hread]

/-! ## Objects -/

private theorem readNode_brace {c : Char} (hblank : isBlank c = false) (hc : c ≠ '\x7d')
    (fuel : Nat) (cs : List Char) :
    readNode (fuel + 1) ('\x7b' :: c :: cs) = readMembers fuel [] (c :: cs) := by
  simp only [readNode, skipBlank_cons (show isBlank '\x7b' = false by rfl), skipBlank_cons hblank]
  split
  · next heq => exact absurd (List.cons.inj heq).1 hc
  · rfl

private theorem readMembers_comma {fuel : Nat} {cs r : List Char} {n : Node}
    (h : readNode fuel cs = some (n, ',' :: r)) (acc : List (Option String × Node)) (key : String) :
    readMembers (fuel + 1) acc (quote key ++ ':' :: cs) =
      readMembers fuel ((some key, n) :: acc) r := by
  simp only [quote_append, readMembers, skipBlank_cons (show isBlank '"' = false by rfl),
    readText_quote, skipBlank_cons (show isBlank ':' = false by rfl), h,
    skipBlank_cons (show isBlank ',' = false by rfl)]

private theorem readMembers_end {fuel : Nat} {cs r : List Char} {n : Node}
    (h : readNode fuel cs = some (n, '\x7d' :: r)) (acc : List (Option String × Node))
    (key : String) :
    readMembers (fuel + 1) acc (quote key ++ ':' :: cs) =
      some (.object (acc.reverse ++ [(some key, n)]), r) := by
  simp only [quote_append, readMembers, skipBlank_cons (show isBlank '"' = false by rfl),
    readText_quote, skipBlank_cons (show isBlank ':' = false by rfl), h,
    skipBlank_cons (show isBlank '\x7d' = false by rfl), List.reverse_cons]

/-- The trees of a first member and of those that follow it. -/
private theorem membersToNodes?_cons {key : String} {v : Value} {ms : List (String × Value)}
    {ns : List (Option String × Node)} (h : membersToNodes? ((key, v) :: ms) = some ns) :
    ∃ n rest, v.toNode? = some n ∧ membersToNodes? ms = some rest ∧ ns = (some key, n) :: rest := by
  rw [membersToNodes?] at h
  split at h
  · next n rest hn hrest => exact ⟨n, rest, hn, hrest, (Option.some.inj h).symm⟩
  · cases h

/-- The members of an object are read one by one, up to its end. -/
private theorem readMembers_write {key : String} {v : Value} {ms : List (String × Value)}
    {n : Node} {ns acc : List (Option String × Node)} {fuel : Nat} {rest : List Char}
    (hv : v.IsRead) (hms : ∀ m ∈ ms, m.2.IsRead) (hn : v.toNode? = some n)
    (hns : membersToNodes? ms = some ns)
    (hfuel : 2 * (v.write.length + (writeMembers ms).length + 1) ≤ fuel) :
    readMembers fuel acc (quote key ++ ':' :: (v.write ++ (writeMembers ms ++ rest))) =
      some (.object (acc.reverse ++ (some key, n) :: ns), rest) := by
  induction ms generalizing key v n ns acc fuel with
  | nil =>
    obtain rfl : [] = ns := by simpa [membersToNodes?] using hns
    rw [writeMembers, List.length_singleton] at hfuel
    obtain ⟨fuel, rfl⟩ : ∃ f, fuel = f + 1 := ⟨fuel - 1, by omega⟩
    have hread := hv _ _ _ hn (show 2 * v.write.length ≤ fuel by omega)
      (EndsNumber.cons '\x7d' rest (by decide))
    exact readMembers_end hread acc key
  | cons m ms ih =>
    obtain ⟨k, w⟩ := m
    obtain ⟨m, ns', hm, hns', rfl⟩ := membersToNodes?_cons hns
    obtain ⟨(hw : w.IsRead), hms⟩ := List.forall_mem_cons.mp hms
    have hwritten : writeMembers ((k, w) :: ms) ++ rest =
        ',' :: (quote k ++ ':' :: (w.write ++ (writeMembers ms ++ rest))) := by
      simp [writeMembers]
    have hlength : (writeMembers ((k, w) :: ms)).length =
        (quote k).length + w.write.length + (writeMembers ms).length + 2 := by
      simp [writeMembers]
      omega
    rw [hlength] at hfuel
    obtain ⟨fuel, rfl⟩ : ∃ f, fuel = f + 1 := ⟨fuel - 1, by omega⟩
    have hread := hv _ _ _ hn (show 2 * v.write.length ≤ fuel by omega)
      (EndsNumber.cons ',' (quote k ++ ':' :: (w.write ++ (writeMembers ms ++ rest))) (by decide))
    rw [hwritten, readMembers_comma hread, ih hw hms hm hns' (by omega), List.reverse_cons,
      List.append_assoc, List.singleton_append]

private theorem isRead_object {ms : List (String × Value)} (hms : ∀ m ∈ ms, m.2.IsRead) :
    (Value.object ms).IsRead := by
  cases ms with
  | nil => exact isRead_of_step rfl (by simp [Value.write]) fun _ _ => rfl
  | cons m ms =>
    obtain ⟨key, v⟩ := m
    intro n fuel rest hn hfuel _
    obtain ⟨ns, hns, rfl⟩ :
        ∃ ns, membersToNodes? ((key, v) :: ms) = some ns ∧ Node.object ns = n := by
      simpa [Value.toNode?] using hn
    obtain ⟨m, ns', hm, hns', rfl⟩ := membersToNodes?_cons hns
    obtain ⟨hv, hms⟩ := List.forall_mem_cons.mp hms
    have hwritten : (Value.object ((key, v) :: ms)).write ++ rest =
        '\x7b' :: (quote key ++ ':' :: (v.write ++ (writeMembers ms ++ rest))) := by
      simp [Value.write]
    have hlength : (Value.object ((key, v) :: ms)).write.length =
        (quote key).length + v.write.length + (writeMembers ms).length + 2 := by
      simp [Value.write]
      omega
    rw [hlength] at hfuel
    obtain ⟨fuel, rfl⟩ : ∃ f, fuel = f + 1 := ⟨fuel - 1, by omega⟩
    have hread : readMembers fuel [] (quote key ++ ':' :: (v.write ++ (writeMembers ms ++ rest))) =
        some (.object ((some key, m) :: ns'), rest) :=
      readMembers_write hv hms hm hns' (by omega)
    rw [quote_append] at hread hwritten
    rw [hwritten, readNode_brace (by decide) (by decide), hread]

/-! ## Whole texts -/

mutual

/-- What is written for a value is read as the tree of the value. -/
theorem readNode_write : (v : Value) → v.IsRead
  | .null => isRead_null
  | .bool b => isRead_bool b
  | .number (.integer i) => isRead_integer i
  | .number (.double _) => fun _ _ _ hn => by cases hn
  | .text s => isRead_text s
  | .array items => isRead_array (readNode_write_items items)
  | .object members => isRead_object (readNode_write_members members)

private theorem readNode_write_items : (items : List Value) → ∀ v ∈ items, v.IsRead
  | [] => by simp
  | v :: vs => List.forall_mem_cons.mpr ⟨readNode_write v, readNode_write_items vs⟩

private theorem readNode_write_members :
    (members : List (String × Value)) → ∀ m ∈ members, m.2.IsRead
  | [] => by simp
  | (_, v) :: ms => List.forall_mem_cons.mpr ⟨readNode_write v, readNode_write_members ms⟩

end

/-- The text of a value is read as the tree of the value. -/
theorem ofText?_toText {v : Value} {n : Node} (h : v.toNode? = some n) :
    Node.ofText? v.toText = some n := by
  have hread := readNode_write v _ _ _ h (show 2 * v.write.length ≤ 2 * v.write.length + 2 by omega)
    (show EndsNumber [] by simp [EndsNumber])
  rw [List.append_nil] at hread
  simp [Node.ofText?, Value.toText, Node.ofChars?, hread, skipBlank]

end TermSync.Json

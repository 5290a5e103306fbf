import TermSync.Proofs.Rest.Encoding

/-!
# Paths in normal form

A path is put into its normal form from its first segment on, so what its last segment is makes no
difference to the places before it. A text that is one segment and means no place (`IsSegment`) is
therefore found at the end of the path, encoded. A path below another one has more slashes: each
segment that means no place adds one.

Main statements: `segments_append_slash`, `resolve_append`, `normalPath_append` and `normalPath_ne`.
-/

namespace TermSync.Rest.Target

/-! ## Segments -/

theorem segments_cons_slash {c : Char} (h : isSlash c = true) (cs : List Char) :
    segments (c :: cs) = [] :: segments cs := by
  rw [segments, if_pos h]

theorem segments_cons_plain {c : Char} (h : isSlash c = false) {cs s : List Char}
    {more : List (List Char)} (hcs : segments cs = s :: more) :
    segments (c :: cs) = (c :: s) :: more := by
  rw [segments, if_neg (by simp [h]), hcs]

/-- There is a first segment. -/
theorem exists_segments_eq_cons (cs : List Char) : ∃ s more, segments cs = s :: more := by
  induction cs with
  | nil => exact ⟨[], [], rfl⟩
  | cons c cs ih =>
    obtain ⟨s, more, hcs⟩ := ih
    cases h : isSlash c with
    | true => exact ⟨[], segments cs, segments_cons_slash h cs⟩
    | false => exact ⟨c :: s, more, segments_cons_plain h hcs⟩

/-- What has no slash in it is one segment. -/
theorem segments_of_notSlash {cs : List Char} (h : ∀ c ∈ cs, isSlash c = false) :
    segments cs = [cs] := by
  induction cs with
  | nil => rfl
  | cons c cs ih =>
    obtain ⟨hc, hcs⟩ := List.forall_mem_cons.mp h
    exact segments_cons_plain hc (ih hcs)

/-- There is a last segment, and what has no slash in it goes on with it. -/
theorem exists_segments_append (cs : List Char) : ∃ before last, segments cs = before ++ [last] ∧
    ∀ more : List Char, (∀ c ∈ more, isSlash c = false) →
      segments (cs ++ more) = before ++ [last ++ more] := by
  induction cs with
  | nil => exact ⟨[], [], rfl, fun more hmore => segments_of_notSlash hmore⟩
  | cons c cs ih =>
    obtain ⟨before, last, hcs, hmore⟩ := ih
    cases h : isSlash c with
    | true =>
      refine ⟨[] :: before, last, by rw [segments_cons_slash h, hcs]; rfl, fun more hm => ?_⟩
      rw [List.cons_append, segments_cons_slash h, hmore more hm]
      rfl
    | false =>
      cases before with
      | nil =>
        exact ⟨[], c :: last, segments_cons_plain h hcs,
          fun more hm => segments_cons_plain h (hmore more hm)⟩
      | cons s before =>
        exact ⟨(c :: s) :: before, last, segments_cons_plain h hcs,
          fun more hm => segments_cons_plain h (hmore more hm)⟩

/-- A slash ends a segment. -/
theorem segments_append_slash (as : List Char) {c : Char} (h : isSlash c = true)
    (bs : List Char) : segments (as ++ c :: bs) = segments as ++ segments bs := by
  induction as with
  | nil => exact segments_cons_slash h bs
  | cons a as ih =>
    cases ha : isSlash a with
    | true => rw [List.cons_append, segments_cons_slash ha, segments_cons_slash ha, ih]; rfl
    | false =>
      obtain ⟨s, more, hs⟩ := exists_segments_eq_cons as
      rw [hs] at ih
      rw [List.cons_append, segments_cons_plain ha ih, segments_cons_plain ha hs]
      rfl

/-- No segment has a slash in it. -/
theorem isSlash_of_mem_segments (cs : List Char) :
    ∀ s ∈ segments cs, ∀ c ∈ s, isSlash c = false := by
  induction cs with
  | nil => simp [segments]
  | cons c cs ih =>
    cases h : isSlash c with
    | true =>
      rw [segments_cons_slash h]
      exact List.forall_mem_cons.mpr ⟨by simp, ih⟩
    | false =>
      obtain ⟨s, more, hs⟩ := exists_segments_eq_cons cs
      rw [hs] at ih
      obtain ⟨hfirst, hmore⟩ := List.forall_mem_cons.mp ih
      rw [segments_cons_plain h hs]
      exact List.forall_mem_cons.mpr ⟨List.forall_mem_cons.mpr ⟨h, hfirst⟩, hmore⟩

/-! ## Places -/

/-- Where a segment leads that is not the last one. -/
def enter (above : List (List Char)) (s : List Char) : List (List Char) :=
  if isAbove s then above.drop 1 else if isHere s then above else s :: above

theorem resolve_cons (above : List (List Char)) (s : List Char) {ts : List (List Char)}
    (h : ts ≠ []) : resolve above (s :: ts) = resolve (enter above s) ts := by
  rw [resolve.eq_3 _ _ _ h, enter]
  split
  · rfl
  · split <;> rfl

theorem resolve_append (above ss : List (List Char)) {ts : List (List Char)} (h : ts ≠ []) :
    resolve above (ss ++ ts) = resolve (ss.foldl enter above) ts := by
  induction ss generalizing above with
  | nil => rfl
  | cons s ss ih =>
    rw [List.cons_append, resolve_cons above s (List.append_ne_nil_of_right_ne_nil ss h), ih,
      List.foldl_cons]

/-- A last segment that means no place is kept. -/
theorem resolve_last (above : List (List Char)) {s : List Char} (hhere : isHere s = false)
    (habove : isAbove s = false) : resolve above [s] = above.reverse ++ [s] := by
  simp [resolve, hhere, habove]

/-- The places that a last segment leaves. -/
def left (above : List (List Char)) (s : List Char) : List (List Char) :=
  if isAbove s then above.drop 1 else above

/-- A last segment makes one place more than it leaves. -/
theorem length_resolve_last (above : List (List Char)) (s : List Char) :
    (resolve above [s]).length = (left above s).length + 1 := by
  rw [resolve, left]
  split
  · simp
  · split <;> simp

theorem length_left_le_enter (above : List (List Char)) (s : List Char) :
    (left above s).length ≤ (enter above s).length := by
  rw [left, enter]
  split
  · exact Nat.le_refl _
  · split
    · exact Nat.le_refl _
    · exact Nat.le_succ _

/-- Nothing but an empty segment is made on the way. -/
theorem mem_resolve {above ss : List (List Char)} {s : List Char} (h : s ∈ resolve above ss) :
    s = [] ∨ s ∈ above ∨ s ∈ ss := by
  have hdrop {above : List (List Char)} (hs : s ∈ above.drop 1) : s ∈ above :=
    List.mem_of_mem_drop hs
  fun_induction resolve above ss with
  | case1 above => exact .inr (.inl (List.mem_reverse.mp h))
  | case2 above last habove =>
    rcases List.mem_cons.mp (List.mem_reverse.mp h) with rfl | h
    · exact .inl rfl
    · exact .inr (.inl (hdrop h))
  | case3 above last habove hhere =>
    rcases List.mem_cons.mp (List.mem_reverse.mp h) with rfl | h
    · exact .inl rfl
    · exact .inr (.inl h)
  | case4 above last habove hhere =>
    rcases List.mem_cons.mp (List.mem_reverse.mp h) with rfl | h
    · exact .inr (.inr List.mem_cons_self)
    · exact .inr (.inl h)
  | case5 above next rest hne habove ih => exact (ih h).imp_right (.imp hdrop (.tail next))
  | case6 above next rest hne habove hhere ih => exact (ih h).imp_right (.imp_right (.tail next))
  | case7 above next rest hne habove hhere ih =>
    rcases ih h with hnil | h | h
    · exact .inl hnil
    · exact (List.mem_cons.mp h).elim (fun heq => .inr (.inr (heq ▸ List.mem_cons_self)))
        fun h => .inr (.inl h)
    · exact .inr (.inr (List.mem_cons_of_mem next h))

theorem joined_cons (s : List Char) (ss : List (List Char)) :
    joined (s :: ss) = '/' :: (s ++ joined ss) := List.flatMap_cons

theorem joined_append (ss ts : List (List Char)) : joined (ss ++ ts) = joined ss ++ joined ts :=
  List.flatMap_append

/-- A path has a slash for each of its segments. -/
theorem count_joined {ss : List (List Char)} (h : ∀ s ∈ ss, '/' ∉ s) :
    (joined ss).count '/' = ss.length := by
  induction ss with
  | nil => rfl
  | cons s ss ih =>
    obtain ⟨hs, hss⟩ := List.forall_mem_cons.mp h
    rw [joined_cons, List.count_cons_self, List.count_append, List.count_eq_zero.mpr hs, ih hss,
      Nat.zero_add, List.length_cons]

/-- A path has a slash at least for each of its segments. -/
theorem length_le_count_joined (ss : List (List Char)) : ss.length ≤ (joined ss).count '/' := by
  induction ss with
  | nil => exact Nat.le_refl 0
  | cons s ss ih =>
    rw [joined_cons, List.count_cons_self, List.count_append, List.length_cons]
    omega

/-- Whether a text stands for itself at the end of a URL: it has no separator in it and nothing
that does not count, and it means no place. -/
structure IsSegment (cs : List Char) : Prop where
  plain : ∀ c ∈ cs, c ∉ ['/', '\\', '?', '#', '\t', '\n', '\r']
  ended : ∀ c ∈ cs.getLast?, isTrimmed c = false
  here : isHere cs = false
  above : isAbove cs = false

/-- It is decided character by character. -/
theorem isSegment_iff {cs : List Char} : IsSegment cs ↔
    (cs.all fun c => !(['/', '\\', '?', '#', '\t', '\n', '\r'].contains c)) = true ∧
      (cs.getLast?.all fun c => !isTrimmed c) = true ∧ isHere cs = false ∧ isAbove cs = false := by
  simp only [List.all_eq_true, Option.all_eq_true, Bool.not_eq_true', List.contains_eq_mem,
    decide_eq_false_iff_not]
  exact ⟨fun h => ⟨h.plain, h.ended, h.here, h.above⟩,
    fun ⟨plain, ended, here, above⟩ => ⟨plain, ended, here, above⟩⟩

instance (cs : List Char) : Decidable (IsSegment cs) := decidable_of_iff' _ isSegment_iff

theorem isSegment_nil : IsSegment [] := by decide

theorem isSegment_instances : IsSegment "instances".toList := by decide

namespace IsSegment

variable {cs : List Char} (h : IsSegment cs)
include h

theorem not_mem_hash : '#' ∉ cs := fun hc => absurd (h.plain _ hc) (by decide)

theorem not_mem_mark : '?' ∉ cs := fun hc => absurd (h.plain _ hc) (by decide)

theorem isSlash_eq : ∀ c ∈ cs, isSlash c = false := by
  intro c hc
  have hplain := h.plain c hc
  simp only [List.mem_cons, not_or] at hplain
  simp [isSlash, hplain]

theorem isIgnored_eq : ∀ c ∈ cs, isIgnored c = false := by
  intro c hc
  have hplain := h.plain c hc
  simp only [List.mem_cons, not_or] at hplain
  simp [isIgnored, hplain]

theorem resolve_encode (places : List (List Char)) :
    resolve places [encode pathReserved cs] = places.reverse ++ [encode pathReserved cs] :=
  resolve_last places (isHere_encode h.here) (isAbove_encode h.above)

theorem enter_encode (above : List (List Char)) :
    enter above (encode pathReserved cs) = encode pathReserved cs :: above := by
  simp [enter, isHere_encode h.here, isAbove_encode h.above]

/-- A segment is the last one of a path that it ends. -/
theorem segments_encode_append (before : List Char) :
    segments (encode pathReserved (before ++ '/' :: cs)) =
      segments (encode pathReserved before) ++ [encode pathReserved cs] := by
  have hlast : segments (encode pathReserved cs) = [encode pathReserved cs] :=
    segments_of_notSlash (isSlash_encode _ h.isSlash_eq)
  have hslash : encode pathReserved ('/' :: cs) = '/' :: encode pathReserved cs := rfl
  rw [encode_append, hslash, segments_append_slash _ rfl, hlast]

end IsSegment

/-- The places that a path goes through. -/
def places (cs : List Char) : List (List Char) :=
  (segments (encode pathReserved cs)).foldl enter []

theorem normalPath_slash {c : Char} (h : isSlash c = true) (cs : List Char) :
    normalPath (c :: cs) = joined (resolve [] (segments (encode pathReserved cs))) := by
  simp [normalPath, h]

/-- A last segment of a path is encoded and added to the places that the path goes through. -/
theorem normalPath_append {c : Char} (hc : isSlash c = true) (before : List Char)
    {cs : List Char} (h : IsSegment cs) :
    normalPath (c :: (before ++ '/' :: cs)) =
      joined (places before).reverse ++ '/' :: encode pathReserved cs := by
  have hjoined : joined [encode pathReserved cs] = '/' :: encode pathReserved cs := by
    simp [joined]
  rw [normalPath_slash hc, h.segments_encode_append, resolve_append _ _ (List.cons_ne_nil _ _),
    h.resolve_encode, joined_append, hjoined]
  rfl

/-- A segment that means no place is one place more. -/
theorem places_append (before : List Char) {cs : List Char} (h : IsSegment cs) :
    places (before ++ '/' :: cs) = encode pathReserved cs :: places before := by
  rw [places, h.segments_encode_append, List.foldl_append, List.foldl_cons, h.enter_encode]
  rfl

private theorem isSlash_of_isTrimmed {c : Char} (h : isTrimmed c = true) : isSlash c = false := by
  refine Bool.eq_false_iff.mpr fun hslash => ?_
  rcases Bool.or_eq_true_iff.mp hslash with hc | hc
  · cases beq_iff_eq.mp hc ▸ h
  · cases beq_iff_eq.mp hc ▸ h

private theorem pathReserved_of_isTrimmed {c : Char} (h : isTrimmed c = true) :
    pathReserved c = true := by
  have hc : c.toNat ≤ 32 := by simpa [isTrimmed] using h
  simp [pathReserved, isHidden, hc]

/-- A last segment leaves no less when blanks are added to it. -/
private theorem length_left_le_append_blank (above : List (List Char)) (last : List Char)
    {blank : List Char} (hblank : ∀ d ∈ blank, isTrimmed d = true) :
    (left above last).length ≤ (left above (last ++ encode pathReserved blank)).length := by
  cases blank with
  | nil => exact Nat.le_of_eq (by rw [encode, List.flatMap_nil, List.append_nil])
  | cons d blank =>
    have hpercent := percent_mem_dotted
      (pathReserved_of_isTrimmed (hblank d List.mem_cons_self)) last (encode pathReserved blank)
    have habove : isAbove (last ++ encode pathReserved (d :: blank)) = false := by
      refine Bool.eq_false_iff.mpr fun hdots => ?_
      rw [← encode_cons, beq_iff_eq.mp hdots] at hpercent
      simp at hpercent
    rw [left, left, habove]
    split
    · rw [List.length_drop]; exact Nat.sub_le _ _
    · exact Nat.le_refl _

/-- What lies below a path has more slashes than the path, also if the path ends in blanks that do
not count at the end of a URL. -/
theorem normalPath_ne {c : Char} (hc : isSlash c = true) (cs : List Char) {blank : List Char}
    (hblank : ∀ d ∈ blank, isTrimmed d = true) {name : List Char} (hname : IsSegment name) :
    normalPath (c :: (cs ++ blank ++ '/' :: "instances".toList ++ '/' :: name)) ≠
      normalPath (c :: cs) := by
  obtain ⟨before, last, hlast, hmore⟩ := exists_segments_append (encode pathReserved cs)
  have hslash : ∀ d ∈ encode pathReserved blank, isSlash d = false :=
    isSlash_encode _ fun d hd => isSlash_of_isTrimmed (hblank d hd)
  have hplaces : places (cs ++ blank) =
      enter (before.foldl enter []) (last ++ encode pathReserved blank) := by
    rw [places, encode_append, hmore _ hslash, List.foldl_append]
    rfl
  have hpath : (normalPath (c :: cs)).count '/' =
      (left (before.foldl enter []) last).length + 1 := by
    rw [normalPath_slash hc, count_joined, hlast, resolve_append _ _ (List.cons_ne_nil _ _),
      length_resolve_last]
    intro s hs hmem
    rcases mem_resolve hs with rfl | hs | hs
    · cases hmem
    · cases hs
    · exact absurd (isSlash_of_mem_segments _ s hs _ hmem) (by decide)
  intro heq
  rw [← heq, normalPath_append hc _ hname, places_append _ isSegment_instances,
    List.count_append] at hpath
  have hbelow := length_le_count_joined
    (encode pathReserved "instances".toList :: places (cs ++ blank)).reverse
  have henter := length_left_le_enter (before.foldl enter []) (last ++ encode pathReserved blank)
  have hlonger := length_left_le_append_blank (before.foldl enter []) last hblank
  rw [← hplaces] at henter
  rw [List.count_cons_self] at hpath
  rw [List.length_reverse, List.length_cons] at hbelow
  omega

end TermSync.Rest.Target

import TimingFleet.Proofs.EndpointIds.Grammar

/-!
# Which error a list of ids gives

A list is read from its first segment on, and the first that is wrong decides the error (`parse_eq_error_iff`).  What a
segment comes to depends on the list only where the error quotes the list (`parseSegment_within`).  So a list of two parts
with a comma between them comes to what the parts come to, one after the other (`parse_parts`).  A part of blanks only is
an empty segment there, though it would be an empty list by itself.
-/

namespace TimingFleet

/-- Changing the error of two steps changes it in both. -/
theorem mapError_bind {ε ε' α β : Type} (g : ε → ε') (x : Except ε α) (f : α → Except ε β) :
    (x >>= f).mapError g = x.mapError g >>= fun a => (f a).mapError g := by
  cases x <;> rfl

/-- Two steps fail just if the first does, or the second after the first has given something. -/
theorem bind_eq_error_iff {ε α β : Type} {x : Except ε α} {f : α → Except ε β} {e : ε} :
    x >>= f = .error e ↔ x = .error e ∨ ∃ a, x = .ok a ∧ f a = .error e := by
  cases x with
  | ok a => exact ⟨fun h => .inr ⟨a, rfl, h⟩, fun h => h.elim (nomatch ·) fun ⟨_, ha, h⟩ => by cases ha; exact h⟩
  | error e' =>
    show (.error e' : Except ε β) = .error e ↔ _
    simp

/-- The error as a list gives it in which the text that was read is a part. -/
def IdListError.within (list : String) : IdListError → IdListError
  | .emptySegment _ => .emptySegment list
  | e => e

namespace EndpointIds

open Text

variable {list segment : List Char} {segments more : List (List Char)} {ids : List UInt32} {e : IdListError}

/-! ## Segments -/

/-- The error of an id does not quote the list. -/
theorem parseId_within (name : String) (token : List Char) :
    (parseId token).mapError (·.within name) = parseId token := by
  simp only [parseId]
  split_ifs
  · rfl
  · split <;> rfl

theorem parseRange_within (name : String) (segment lo hi : List Char) :
    (parseRange segment lo hi).mapError (·.within name) = parseRange segment lo hi := by
  unfold parseRange
  simp only [mapError_bind, parseId_within]
  refine congrArg _ (funext fun first => congrArg _ (funext fun last => ?_))
  split_ifs <;> rfl

/-- **What a segment comes to** is the same in every list, but for a list that is quoted. -/
theorem parseSegment_within (list list' segment : List Char) :
    (parseSegment list' segment).mapError (·.within (String.ofList list)) = parseSegment list segment := by
  unfold parseSegment
  dsimp only
  split_ifs
  · rfl
  split
  · next single _ =>
    have hsingle := parseId_within (String.ofList list) single
    cases h : parseId single with
    | ok id => rfl
    | error e =>
      rw [h] at hsingle
      exact congrArg (Except.map ([·])) hsingle
  · exact parseRange_within _ _ _ _
  · rfl

/-- A segment of blanks is an empty one. -/
theorem parseSegment_of_blank (h : blank segment) :
    parseSegment list segment = .error (.emptySegment (String.ofList list)) := by
  have htrim : trim segment = [] := by
    have hall : trim (segment ++ [] ++ []) = [] := trim_append h rfl (fun _ h => nomatch h) fun _ h => nomatch h
    rwa [List.append_nil, List.append_nil] at hall
  simp only [parseSegment, htrim, if_true]

/-- A segment by itself is never an empty list. -/
theorem parseSegment_ne_empty : parseSegment list segment ≠ .error .empty := by
  have hid : ∀ token, parseId token ≠ .error .empty := by
    intro token
    simp only [parseId]
    split_ifs
    · rintro ⟨⟩
    · split <;> rintro ⟨⟩
  unfold parseSegment
  dsimp only
  split_ifs
  · rintro ⟨⟩
  split
  · next single _ =>
    cases h : parseId single with
    | ok id => rintro ⟨⟩
    | error e => exact fun he => hid single (h.trans (congrArg Except.error (Except.error.inj he)))
  · next lo hi _ =>
    unfold parseRange
    rw [Ne, bind_eq_error_iff]
    rintro (hlo | ⟨first, -, h⟩)
    · exact hid lo hlo
    rcases bind_eq_error_iff.mp h with hhi | ⟨last, -, h⟩
    · exact hid hi hhi
    · split_ifs at h <;> cases h
  · rintro ⟨⟩

/-! ## Segments one after the other -/

theorem parseSegments_within (list list' : List Char) (segments : List (List Char)) :
    (parseSegments list' segments).mapError (·.within (String.ofList list)) = parseSegments list segments := by
  induction segments with
  | nil => rfl
  | cons segment rest ih =>
    simp only [parseSegments, mapError_bind, parseSegment_within list list', ih]
    rfl

/-- Segments are read in order, up to the first that is wrong. -/
theorem parseSegments_append (list : List Char) (segments more : List (List Char)) :
    parseSegments list (segments ++ more) = (do
      let ids ← parseSegments list segments
      let rest ← parseSegments list more
      return ids ++ rest) := by
  induction segments with
  | nil =>
    show parseSegments list more = parseSegments list more >>= fun rest => .ok ([] ++ rest)
    cases parseSegments list more <;> rfl
  | cons segment segments ih =>
    rw [List.cons_append, parseSegments, ih, parseSegments]
    cases parseSegment list segment with
    | error e => rfl
    | ok first =>
      cases parseSegments list segments with
      | error e => rfl
      | ok ids =>
        cases parseSegments list more with
        | error e => rfl
        | ok rest => exact congrArg Except.ok (List.append_assoc first ids rest).symm

/-- **The first wrong segment decides the error.** -/
theorem parseSegments_eq_error_iff : parseSegments list segments = .error e ↔
    ∃ before segment after, segments = before ++ segment :: after ∧ (∀ x ∈ before, ∃ ids, Segment x ids) ∧
      parseSegment list segment = .error e := by
  constructor
  · intro h
    induction segments with
    | nil => cases h
    | cons segment rest ih =>
      rw [parseSegments] at h
      rcases bind_eq_error_iff.mp h with hsegment | ⟨ids, hsegment, h⟩
      · exact ⟨[], segment, rest, rfl, fun _ h => absurd h List.not_mem_nil, hsegment⟩
      rcases bind_eq_error_iff.mp h with hrest | ⟨_, _, hdone⟩
      · obtain ⟨before, wrong, after, rfl, hbefore, hwrong⟩ := ih hrest
        refine ⟨segment :: before, wrong, after, rfl, fun x hx => ?_, hwrong⟩
        rcases List.mem_cons.mp hx with rfl | hx
        · exact ⟨ids, parseSegment_eq_ok_iff.mp hsegment⟩
        · exact hbefore x hx
      · cases hdone
  · rintro ⟨before, segment, after, rfl, hbefore, hwrong⟩
    induction before with
    | nil => rw [List.nil_append, parseSegments, hwrong]; rfl
    | cons first before ih =>
      obtain ⟨ids, hfirst⟩ := hbefore first List.mem_cons_self
      rw [List.cons_append, parseSegments, parseSegment_eq_ok_iff.mpr hfirst,
        ih fun x hx => hbefore x (List.mem_cons_of_mem first hx)]
      rfl

/-! ## Lists -/

/-- **Errors of lists**: a blank list is empty, and in any other the first wrong segment decides. -/
theorem parse_eq_error_iff {text : String} : parse text = .error e ↔
    blank text.toList ∧ e = .empty ∨ ¬ blank text.toList ∧ ∃ before segment after,
      split ',' text.toList = before ++ segment :: after ∧ (∀ x ∈ before, ∃ ids, Segment x ids) ∧
        parseSegment text.toList segment = .error e := by
  unfold parse
  dsimp only
  split_ifs with hblank
  · simp [hblank, eq_comm]
  · rw [parseSegments_eq_error_iff]
    simp [hblank]

/-- What a part comes to in `list`, of which it is all that stands between commas or a comma and an end. -/
def parsePart (list part : String) : Except IdListError (List UInt32) :=
  if blank part.toList then .error (.emptySegment list) else (parse part).mapError (·.within list)

/-- In a list its part comes to what the segments of the part come to. -/
theorem parsePart_eq (list part : String) :
    parsePart list part = parseSegments list.toList (split ',' part.toList) := by
  unfold parsePart parse
  dsimp only
  split_ifs with hblank
  · have hcomma : ',' ∉ part.toList := fun hc => absurd (List.all_eq_true.mp hblank ',' hc) (by decide)
    rw [split_of_not_mem hcomma, parseSegments, parseSegment_of_blank hblank, String.ofList_toList]
    rfl
  · have hwithin := parseSegments_within list.toList part.toList (split ',' part.toList)
    rwa [String.ofList_toList] at hwithin

/-- **Lists of two parts.**  A list of two parts with a comma between them is read as the parts are, the first before
the second: it has the ids of both, or the error of the first part that is wrong.  Such an error quotes the whole list
where it quotes one.  A part of blanks only is wrong as an empty segment; a list is empty just if it is blank as a
whole. -/
theorem parse_parts (s t : String) :
    parse (s ++ "," ++ t) = (do
      let ids ← parsePart (s ++ "," ++ t) s
      let more ← parsePart (s ++ "," ++ t) t
      return ids ++ more) ∧
    ∀ text, parse text = .error .empty ↔ blank text.toList := by
  refine ⟨?parts, fun text => ?empty⟩
  case parts =>
    have htext : (s ++ "," ++ t).toList = s.toList ++ ',' :: t.toList := by simp
    have hblank : ¬ blank (s ++ "," ++ t).toList := by
      rw [htext, blank_append]
      exact fun h => absurd (List.all_eq_true.mp h.2 ',' List.mem_cons_self) (by decide)
    rw [parsePart_eq, parsePart_eq, ← parseSegments_append, ← split_append, ← htext, parse]
    exact if_neg hblank
  case empty =>
    rw [parse_eq_error_iff]
    refine ⟨?_, fun h => .inl ⟨h, rfl⟩⟩
    rintro (⟨hblank, -⟩ | ⟨-, _, _, _, -, -, hsegment⟩)
    · exact hblank
    · exact absurd hsegment parseSegment_ne_empty

/-- The error of the first part, with the whole list in it, and not that of the second. -/
example : parse "1, ,2,9-3" = .error (.emptySegment "1, ,2,9-3") := by decide +kernel

end EndpointIds

end TimingFleet

import Mathlib.Data.List.Basic
import TimingFleet.EndpointIds
import TimingFleet.Proofs.Text.Pieces
import TimingFleet.Proofs.Text.Decimal

/-!
# The grammar of id lists

A list is made of segments with commas between them, a segment of one entry or of two with a dash between them, and an
entry of digits with blanks around them.  The grammar says so in relations between texts and what they stand for; no
text is cut apart or trimmed in it.

- `Digits`: digits of a word.
- `Entry`: digits with blanks around them.
- `Segment`: one id, or the ids of a range.
- `IdList`: the ids of all segments, one segment after the other.

`parse_eq_ok_iff`: a text is read as these ids just if the grammar gives them to it.
-/

namespace TimingFleet

/-- A value comes out of two steps just if the first gives something from which the second gives it. -/
theorem bind_eq_ok_iff {ε α β : Type} {x : Except ε α} {f : α → Except ε β} {b : β} :
    x >>= f = .ok b ↔ ∃ a, x = .ok a ∧ f a = .ok b := by
  cases x with
  | ok a => exact ⟨fun h => ⟨a, rfl, h⟩, fun ⟨_, ha, h⟩ => by cases ha; exact h⟩
  | error e => exact ⟨(nomatch ·), fun ⟨_, ha, _⟩ => nomatch ha⟩

theorem map_eq_ok_iff {ε α β : Type} {x : Except ε α} {f : α → β} {b : β} :
    x.map f = .ok b ↔ ∃ a, x = .ok a ∧ f a = b := by
  cases x with
  | ok a => exact ⟨fun h => ⟨a, rfl, Except.ok.inj h⟩, fun ⟨_, ha, h⟩ => by cases ha; exact congrArg Except.ok h⟩
  | error e => exact ⟨(nomatch ·), fun ⟨_, ha, _⟩ => nomatch ha⟩

namespace EndpointIds

open Text

/-! ## The grammar -/

/-- One or more digits, zeros in front of them or not, and the word that is their value. -/
structure Digits (digits : List Char) (id : UInt32) : Prop where
  ne_nil : digits ≠ []
  isDigit : ∀ c ∈ digits, c.isDigit
  value : Nat.ofDigitChars 10 digits 0 = id.toNat

/-- Digits with blanks around them. -/
inductive Entry : List Char → UInt32 → Prop where
  | digits {before digits after : List Char} {id : UInt32} (hbefore : blank before) (h : Digits digits id)
      (hafter : blank after) : Entry (before ++ digits ++ after) id

/-- One entry, or two that are the ends of a range of at most `65536` ids. -/
inductive Segment : List Char → List UInt32 → Prop where
  | single {text : List Char} {id : UInt32} (h : Entry text id) : Segment text [id]
  | range {lo hi : List Char} {first last : UInt32} {ids : List UInt32} (hlo : Entry lo first) (hhi : Entry hi last)
      (hle : first ≤ last) (hspan : last.toNat - first.toNat < 65536)
      (hids : ids.map UInt32.toNat = List.range' first.toNat (last.toNat - first.toNat + 1)) :
      Segment (lo ++ '-' :: hi) ids

/-- Segments with commas between them. -/
inductive IdList : List Char → List UInt32 → Prop where
  | last {text : List Char} {ids : List UInt32} (h : Segment text ids) : IdList text ids
  | more {text rest : List Char} {ids more : List UInt32} (h : Segment text ids) (hrest : IdList rest more) :
      IdList (text ++ ',' :: rest) (ids ++ more)

/-! ## Characters of the grammar -/

theorem isBlank_of_isDigit {c : Char} (h : c.isDigit) : isBlank c = false := by
  obtain ⟨hlo, hhi⟩ := Numeral.isDigit_iff.mp h
  simp only [isBlank, Bool.or_eq_false_iff, beq_eq_false_iff_ne, Bool.and_eq_false_iff, decide_eq_false_iff_not]
  refine ⟨⟨⟨⟨⟨⟨⟨⟨⟨⟨?_, ?_⟩, ?_⟩, ?_⟩, ?_⟩, ?_⟩, ?_⟩, ?_⟩, ?_⟩, ?_⟩, ?_⟩ <;> omega

namespace Entry

variable {text before after : List Char} {id : UInt32}

/-- An entry holds digits and blanks only. -/
theorem digit_or_blank (h : Entry text id) : ∀ c ∈ text, c.isDigit ∨ isBlank c := by
  obtain ⟨hbefore, h, hafter⟩ := h
  intro c hc
  rcases List.mem_append.mp hc with hc | hc
  · rcases List.mem_append.mp hc with hc | hc
    · exact .inr (List.all_eq_true.mp hbefore c hc)
    · exact .inl (h.isDigit c hc)
  · exact .inr (List.all_eq_true.mp hafter c hc)

theorem dash_not_mem (h : Entry text id) : '-' ∉ text := fun hc => absurd (h.digit_or_blank '-' hc) (by decide)

theorem comma_not_mem (h : Entry text id) : ',' ∉ text := fun hc => absurd (h.digit_or_blank ',' hc) (by decide)

theorem exists_digit (h : Entry text id) : ∃ c ∈ text, c.isDigit := by
  obtain ⟨-, h, -⟩ := h
  obtain ⟨c, hc⟩ := List.exists_mem_of_ne_nil _ h.ne_nil
  exact ⟨c, List.mem_append_left _ (List.mem_append_right _ hc), h.isDigit c hc⟩

/-- Blanks may be added on both sides. -/
theorem pad (h : Entry text id) (hb : blank before) (ha : blank after) : Entry (before ++ text ++ after) id := by
  obtain ⟨hbefore, h, hafter⟩ := h
  have hentry := Entry.digits (blank_append.mpr ⟨hb, hbefore⟩) h (blank_append.mpr ⟨hafter, ha⟩)
  simpa only [List.append_assoc] using hentry

end Entry

namespace Segment

variable {text before after : List Char} {ids : List UInt32}

theorem comma_not_mem (h : Segment text ids) : ',' ∉ text := by
  cases h with
  | single h => exact h.comma_not_mem
  | range hlo hhi =>
    intro hc
    rcases List.mem_append.mp hc with hc | hc
    · exact hlo.comma_not_mem hc
    · rcases List.mem_cons.mp hc with hc | hc
      · exact absurd hc (by decide)
      · exact hhi.comma_not_mem hc

theorem exists_digit (h : Segment text ids) : ∃ c ∈ text, c.isDigit := by
  cases h with
  | single h => exact h.exists_digit
  | range hlo hhi =>
    obtain ⟨c, hc, hdigit⟩ := hlo.exists_digit
    exact ⟨c, List.mem_append_left _ hc, hdigit⟩

/-- Blanks may be added on both sides. -/
theorem pad (h : Segment text ids) (hb : blank before) (ha : blank after) : Segment (before ++ text ++ after) ids := by
  cases h with
  | single h => exact .single (h.pad hb ha)
  | @range lo hi _ _ _ hlo hhi hle hspan hids =>
    have hlo' := hlo.pad hb (rfl : blank [])
    have hhi' := hhi.pad (rfl : blank []) ha
    simpa using Segment.range hlo' hhi' hle hspan hids

end Segment

theorem IdList.exists_digit {text : List Char} {ids : List UInt32} (h : IdList text ids) : ∃ c ∈ text, c.isDigit := by
  have happend : ∀ {head tail : List Char}, (∃ c ∈ head, c.isDigit) → ∃ c ∈ head ++ tail, c.isDigit :=
    fun ⟨c, hc, hdigit⟩ => ⟨c, List.mem_append_left _ hc, hdigit⟩
  cases h with
  | last h => exact h.exists_digit
  | more h hrest => exact happend h.exists_digit

/-! ## Entries -/

/-- Digits and what else stands between the first and the last of two texts of digits is not trimmed. -/
theorem trim_between {before first last after : List Char} {lo hi : UInt32} (hb : blank before)
    (hfirst : Digits first lo) (middle : List Char) (hlast : Digits last hi) (ha : blank after) :
    trim (before ++ (first ++ middle ++ last) ++ after) = first ++ middle ++ last := by
  refine trim_append hb ha (fun c hc => ?_) fun c hc => ?_
  · rw [List.append_assoc, List.head?_append_of_ne_nil _ hfirst.ne_nil] at hc
    exact isBlank_of_isDigit (hfirst.isDigit c (List.mem_of_mem_head? hc))
  · rw [List.getLast?_append_of_ne_nil _ hlast.ne_nil] at hc
    exact isBlank_of_isDigit (hlast.isDigit c (List.mem_of_mem_getLast? hc))

theorem trim_digits {before digits after : List Char} {id : UInt32} (hb : blank before) (h : Digits digits id)
    (ha : blank after) : trim (before ++ digits ++ after) = digits :=
  trim_append hb ha (fun c hc => isBlank_of_isDigit (h.isDigit c (List.mem_of_mem_head? hc)))
    fun c hc => isBlank_of_isDigit (h.isDigit c (List.mem_of_mem_getLast? hc))

/-- **Entries are read**, and nothing else is read as an id. -/
theorem parseId_eq_ok_iff {token : List Char} {id : UInt32} : parseId token = .ok id ↔ Entry token id := by
  constructor
  · intro h
    obtain ⟨before, after, hb, ha, htoken⟩ := exists_eq_trim token
    simp only [parseId] at h
    split at h
    · cases h
    next hdigits =>
      obtain ⟨hne, hall⟩ := not_or.mp hdigits
      have hisDigit := List.all_eq_true.mp (Classical.not_not.mp hall)
      split at h
      · next id' hword =>
        obtain rfl : id' = id := Except.ok.inj h
        rw [htoken]
        exact .digits hb ⟨hne, hisDigit, (Numeral.readWord_ten_eq_ok_iff hne hisDigit).mp hword⟩ ha
      · cases h
  · rintro ⟨hb, h, ha⟩
    have hdigits : ¬ (_ = [] ∨ ¬ _) := not_or.mpr ⟨h.ne_nil, Classical.not_not.mpr (List.all_eq_true.mpr h.isDigit)⟩
    have hword := (Numeral.readWord_ten_eq_ok_iff h.ne_nil h.isDigit).mpr h.value
    simp only [parseId, trim_digits hb h ha, if_neg hdigits, hword]

/-! ## Segments -/

/-- The interval holds the words from `lo` to `hi`, in ascending order. -/
theorem map_toNat_interval {lo hi : UInt32} (h : lo ≤ hi) :
    (interval lo hi).map UInt32.toNat = List.range' lo.toNat (hi.toNat - lo.toNat + 1) := by
  have hle : lo.toNat ≤ hi.toNat := UInt32.le_iff_toNat_le.mp h
  rw [interval, List.map_map, show hi.toNat + 1 - lo.toNat = hi.toNat - lo.toNat + 1 by omega]
  refine (List.map_congr_left fun n hn => ?_).trans (List.map_id _)
  have hsize : n < UInt32.size := by
    have hhi := hi.toNat_lt_size
    have hmem := List.mem_range'_1.mp hn
    omega
  exact UInt32.toNat_ofNat_of_lt' hsize

theorem interval_eq_iff {lo hi : UInt32} (h : lo ≤ hi) {ids : List UInt32} :
    interval lo hi = ids ↔ ids.map UInt32.toNat = List.range' lo.toNat (hi.toNat - lo.toNat + 1) := by
  rw [← map_toNat_interval h]
  exact ⟨fun heq => heq ▸ rfl, fun heq => (List.map_injective_iff.mpr (fun _ _ => UInt32.toNat_inj.mp) heq).symm⟩

/-- **A range is read** from two entries that are not too far apart and in order. -/
theorem parseRange_eq_ok_iff {segment lo hi : List Char} {ids : List UInt32} :
    parseRange segment lo hi = .ok ids ↔
      ∃ first last, Entry lo first ∧ Entry hi last ∧ first ≤ last ∧ last.toNat - first.toNat < 65536 ∧
        ids.map UInt32.toNat = List.range' first.toNat (last.toNat - first.toNat + 1) := by
  unfold parseRange
  rw [bind_eq_ok_iff]
  simp only [bind_eq_ok_iff, parseId_eq_ok_iff]
  have hends : ∀ first last : UInt32,
      (if last < first then .error (.invertedRange (String.ofList segment))
        else if maxRange ≤ last.toNat - first.toNat then .error (.rangeTooWide (String.ofList segment))
        else .ok (interval first last)) = Except.ok (ε := IdListError) ids ↔
        first ≤ last ∧ last.toNat - first.toNat < 65536 ∧
          ids.map UInt32.toNat = List.range' first.toNat (last.toNat - first.toNat + 1) := by
    intro first last
    split_ifs with hlt hwide
    · exact ⟨(nomatch ·), fun h => absurd h.1 (UInt32.not_le.mpr hlt)⟩
    · exact ⟨(nomatch ·), fun h => absurd h.2.1 (Nat.not_lt.mpr hwide)⟩
    · have hle := UInt32.not_lt.mp hlt
      rw [Except.ok.injEq, interval_eq_iff hle]
      exact ⟨fun h => ⟨hle, Nat.not_le.mp hwide, h⟩, fun h => h.2.2⟩
  simp only [hends]
  exact ⟨fun ⟨first, hlo, last, hhi, h⟩ => ⟨first, last, hlo, hhi, h⟩,
    fun ⟨first, last, hlo, hhi, h⟩ => ⟨first, hlo, last, hhi, h⟩⟩

/-- **Segments are read**, whatever list they stand in. -/
theorem parseSegment_eq_ok_iff {list segment : List Char} {ids : List UInt32} :
    parseSegment list segment = .ok ids ↔ Segment segment ids := by
  constructor
  · intro h
    obtain ⟨before, after, hb, ha, hsegment⟩ := exists_eq_trim segment
    rw [hsegment]
    refine Segment.pad ?_ hb ha
    simp only [parseSegment] at h
    split at h
    · cases h
    split at h
    · next single hsplit =>
      obtain ⟨id, hid, hids⟩ := map_eq_ok_iff.mp h
      rw [eq_of_split_eq_one hsplit, ← hids]
      exact .single (parseId_eq_ok_iff.mp hid)
    · next lo hi hsplit =>
      obtain ⟨first, last, hlo, hhi, hle, hspan, hids⟩ := parseRange_eq_ok_iff.mp h
      rw [eq_of_split_eq_two hsplit]
      exact .range hlo hhi hle hspan hids
    · cases h
  · intro h
    cases h with
    | @single text id h =>
      obtain ⟨hb, h, ha⟩ := h
      have hentry : Entry _ id := .digits (rfl : blank []) h (rfl : blank [])
      rw [List.nil_append, List.append_nil] at hentry
      simp only [parseSegment, trim_digits hb h ha, if_neg h.ne_nil, split_of_not_mem hentry.dash_not_mem,
        parseId_eq_ok_iff.mpr hentry]
      rfl
    | @range lo hi first last ids hlo hhi hle hspan hids =>
      obtain ⟨hb, hfirst, hbetween⟩ := hlo
      obtain ⟨hbetween', hlast, ha⟩ := hhi
      next before digits between between' digits' after =>
      -- blanks around the dash are not trimmed with the segment: the ends of the range are trimmed on their own
      have hlo : Entry (digits ++ between) first := by simpa using Entry.digits (rfl : blank []) hfirst hbetween
      have hhi : Entry (between' ++ digits') last := by simpa using Entry.digits hbetween' hlast (rfl : blank [])
      have htrim : trim (before ++ digits ++ between ++ '-' :: (between' ++ digits' ++ after)) =
          digits ++ between ++ '-' :: (between' ++ digits') := by
        simpa using trim_between hb hfirst (between ++ '-' :: between') hlast ha
      have hne : digits ++ between ++ '-' :: (between' ++ digits') ≠ [] := by simp
      simp only [parseSegment, htrim, if_neg hne, split_append_sep hlo.dash_not_mem, split_of_not_mem hhi.dash_not_mem]
      exact parseRange_eq_ok_iff.mpr ⟨first, last, hlo, hhi, hle, hspan, hids⟩

/-! ## Lists -/

/-- Segments that are read one after the other make a list. -/
theorem idList_of_parseSegments {list : List Char} {segments : List (List Char)} {ids : List UInt32}
    (hne : segments ≠ []) (h : parseSegments list segments = .ok ids) : IdList (join [','] segments) ids := by
  induction segments generalizing ids with
  | nil => exact absurd rfl hne
  | cons segment rest ih =>
    rw [parseSegments] at h
    obtain ⟨first, hfirst, h⟩ := bind_eq_ok_iff.mp h
    obtain ⟨more, hmore, h⟩ := bind_eq_ok_iff.mp h
    obtain rfl : first ++ more = ids := Except.ok.inj h
    have hsegment := parseSegment_eq_ok_iff.mp hfirst
    cases rest with
    | nil =>
      obtain rfl : [] = more := Except.ok.inj hmore
      rw [List.append_nil]
      exact .last hsegment
    | cons next rest =>
      have hjoin : join [','] (segment :: next :: rest) = segment ++ ',' :: join [','] (next :: rest) := by
        simp [join]
      rw [hjoin]
      exact .more hsegment (ih (List.cons_ne_nil next rest) hmore)

/-- The segments of a list are read. -/
theorem parseSegments_of_idList {list text : List Char} {ids : List UInt32} (h : IdList text ids) :
    parseSegments list (split ',' text) = .ok ids := by
  induction h with
  | last h =>
    rw [split_of_not_mem h.comma_not_mem, parseSegments, parseSegment_eq_ok_iff.mpr h]
    exact congrArg Except.ok (List.append_nil _)
  | more h hrest ih =>
    rw [split_append_sep h.comma_not_mem, parseSegments, parseSegment_eq_ok_iff.mpr h, ih]
    rfl

theorem IdList.not_blank {text : List Char} {ids : List UInt32} (h : IdList text ids) : ¬ blank text := by
  intro hblank
  obtain ⟨c, hc, hdigit⟩ := h.exists_digit
  have hb := List.all_eq_true.mp hblank c hc
  rw [isBlank_of_isDigit hdigit] at hb
  exact absurd hb (by decide)

theorem parse_of_idList {text : String} {ids : List UInt32} (h : IdList text.toList ids) : parse text = .ok ids := by
  simp only [parse, if_neg h.not_blank]
  exact parseSegments_of_idList h

theorem idList_of_parse {text : String} {ids : List UInt32} (h : parse text = .ok ids) : IdList text.toList ids := by
  simp only [parse] at h
  split at h
  · cases h
  · have hlist := idList_of_parseSegments (split_ne_nil ',' text.toList) h
    rwa [join_split] at hlist

/-- **Lists are read by their grammar**: a text is read just if the grammar gives it ids, and those are the ids. -/
theorem parse_eq_ok_iff (text : String) (ids : List UInt32) : parse text = .ok ids ↔ IdList text.toList ids :=
  ⟨idList_of_parse, parse_of_idList⟩

example : parse " 007 , 4294967294-4294967295,7" = .ok [7, 4294967294, 4294967295, 7] := by decide +kernel

end EndpointIds

end TimingFleet

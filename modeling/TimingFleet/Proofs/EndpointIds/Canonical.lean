import TimingFleet.Proofs.EndpointIds.Grammar

/-!
# The canonical form of an id list

One sequence of ids can be written in many ways, with blanks, with zeros in front, and with ranges or without.  What
`text` writes is the plainest of them: each id in decimal, with commas between.  It is read as the ids it was written
for, so writing what was read settles on one text for each sequence.
-/

namespace TimingFleet.EndpointIds

open Text

/-- An id in decimal is an entry that stands for the id. -/
theorem entry_decimal (id : UInt32) : Entry (Numeral.decimal id.toNat).toList id := by
  have hdigits : Digits (Nat.toDigits 10 id.toNat) id := by
    refine ⟨Nat.toDigits_ne_nil, fun c hc => ?_, Nat.ofDigitChars_ten_toDigits⟩
    exact Nat.isDigit_of_mem_toDigits (by decide) (by decide) hc
  simpa [Numeral.decimal] using Entry.digits (rfl : blank []) hdigits (rfl : blank [])

/-- The written ids make a list by the grammar, if there are any. -/
theorem idList_text {ids : List UInt32} (hne : ids ≠ []) : IdList (text ids).toList ids := by
  induction ids with
  | nil => exact absurd rfl hne
  | cons id ids ih =>
    have hid := Segment.single (entry_decimal id)
    cases ids with
    | nil =>
      have htext : text [id] = Numeral.decimal id.toNat := by simp [text, joinWith]
      rw [htext]
      exact .last hid
    | cons next ids =>
      have htext : (text (id :: next :: ids)).toList =
          (Numeral.decimal id.toNat).toList ++ ',' :: (text (next :: ids)).toList := by
        simp [text, joinWith, String.intercalate_cons_cons]
      rw [htext]
      exact .more hid (ih (List.cons_ne_nil next ids))

theorem Segment.ids_ne_nil {segment : List Char} {ids : List UInt32} (h : Segment segment ids) : ids ≠ [] := by
  cases h with
  | single => exact List.cons_ne_nil _ _
  | range _ _ _ _ hids =>
    rintro rfl
    exact absurd (congrArg List.length hids) (by simp)

/-- Every list that is read holds an id. -/
theorem IdList.ids_ne_nil {list : List Char} {ids : List UInt32} (h : IdList list ids) : ids ≠ [] := by
  cases h with
  | last h => exact h.ids_ne_nil
  | more h => exact List.append_ne_nil_of_left_ne_nil h.ids_ne_nil _

/-- **Writing and reading id lists are inverse.**  Any ids but none at all are read back from their text as they are, in
their order and as often as they occur; and so the text of the ids that a list was read as is one form for all the
lists that stand for those ids. -/
theorem parse_text :
    (∀ ids : List UInt32, parse (text ids) = .ok ids ↔ ids ≠ []) ∧
      (∀ (list : String) (ids : List UInt32), parse list = .ok ids → parse (text ids) = .ok ids) ∧
      ∀ (list list' : String) (ids ids' : List UInt32), parse list = .ok ids → parse list' = .ok ids' →
        (text ids = text ids' ↔ ids = ids') := by
  have hback : ∀ ids : List UInt32, ids ≠ [] → parse (text ids) = .ok ids := fun ids hne =>
    parse_of_idList (idList_text hne)
  have hread : ∀ (list : String) (ids : List UInt32), parse list = .ok ids → parse (text ids) = .ok ids :=
    fun list ids h => hback ids (idList_of_parse h).ids_ne_nil
  refine ⟨fun ids => ⟨fun h => (idList_of_parse h).ids_ne_nil, hback ids⟩, hread, ?_⟩
  intro list list' ids ids' h h'
  refine ⟨fun htext => ?_, congrArg text⟩
  have hids : Except.ok (ε := IdListError) ids = .ok ids' := by
    rw [← hread list ids h, ← hread list' ids' h', htext]
  exact Except.ok.inj hids

/-- A list of three segments and its text, and another list, with another text. -/
theorem parse_text_of_range :
    parse (text [3, 1, 2, 3]) = .ok [3, 1, 2, 3] ∧ text [3, 1, 2, 3] = "3,1,2,3" ∧
      (text [3, 1, 2, 3] = text [1, 2, 3] ↔ ([3, 1, 2, 3] : List UInt32) = [1, 2, 3]) := by
  have hlist : parse " 3,01-2 ,3" = .ok [3, 1, 2, 3] := by decide +kernel
  have hlist' : parse "1-3" = .ok [1, 2, 3] := by decide +kernel
  exact ⟨parse_text.2.1 _ _ hlist, by decide +kernel, parse_text.2.2 _ _ _ _ hlist hlist'⟩

end TimingFleet.EndpointIds

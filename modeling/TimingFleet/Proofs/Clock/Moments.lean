import TimingFleet.Clock.Ticks
import TimingFleet.Proofs.Clock.Calendar
import TimingFleet.Proofs.Text.Pieces

/-!
# Moments in text

The text of a moment can be read back (`Moment.read?_text`), so different moments have different texts.  The text of a
time stamp is that of the moment so many seconds after 1970-01-01 00:00:00 (`Ticks.textUntil_moment`): a calendar that
goes a good deal further than sixty-four bits of ticks has a date for all of them.

* `Moment.Valid m`: the date and the time of day exist.
* `Moment.seconds m`: the seconds from 1970-01-01 00:00:00 to `m`.
-/

namespace TimingFleet

open Text

/-! ## Reading -/

/-- The number that digits show; a plus sign in front is skipped. -/
def shownNumber (digits : List Char) : Nat := Nat.ofDigitChars 10 (digits.dropWhile (· = '+')) 0

/-- Reads year, month and day with hyphens between them. -/
def Date.read? (cs : List Char) : Option Date :=
  match split '-' cs with
  | [year, month, day] => some ⟨shownNumber year, shownNumber month, shownNumber day⟩
  | _ => none

/-- Reads hour, minute and second with colons between them. -/
def TimeOfDay.read? (cs : List Char) : Option TimeOfDay :=
  match split ':' cs with
  | [hour, minute, second] => some ⟨shownNumber hour, shownNumber minute, shownNumber second⟩
  | _ => none

/-- Reads date, time and time zone with blanks between them. -/
def Moment.read? (text : String) : Option Moment :=
  match split ' ' text.toList with
  | [date, time, ['U', 'T', 'C']] =>
    match Date.read? date, TimeOfDay.read? time with
    | some date, some time => some ⟨date, time⟩
    | _, _ => none
  | _ => none

/-! ## Fields -/

/-- A field shows a number, with digits and perhaps a plus sign. -/
structure ShowsNumber (field : List Char) (n : Nat) : Prop where
  number : shownNumber field = n
  chars : ∀ c ∈ field, c.isDigit = true ∨ c = '+'

namespace ShowsNumber

variable {field digits : List Char} {n : Nat}

theorem of_digits (h : ∀ c ∈ digits, c.isDigit = true) (hn : Nat.ofDigitChars 10 digits 0 = n) :
    ShowsNumber digits n := by
  refine ⟨?_, fun c hc => Or.inl (h c hc)⟩
  rw [shownNumber, ← hn]
  cases digits with
  | nil => rfl
  | cons c digits =>
    have hc : c ≠ '+' := by
      rintro rfl
      exact absurd (h '+' List.mem_cons_self) (by decide)
    simp [hc]

theorem plus (h : ShowsNumber field n) : ShowsNumber ('+' :: field) n :=
  ⟨h.number, List.forall_mem_cons.mpr ⟨Or.inr rfl, h.chars⟩⟩

/-- The zeros in front of a number do not count. -/
theorem padded (width n : Nat) : ShowsNumber (Numeral.padded width n).toList n := by
  rw [Numeral.padded, String.toList_ofList]
  refine of_digits (fun c hc => ?_) (by simp [Nat.ofDigitChars_append])
  rcases List.mem_append.mp hc with hc | hc
  · rw [List.eq_of_mem_replicate hc]
    rfl
  · exact Nat.isDigit_of_mem_toDigits (by decide) (by decide) hc

theorem decimal (n : Nat) : ShowsNumber (Numeral.decimal n).toList n := by
  rw [Numeral.decimal, String.toList_ofList]
  exact of_digits (fun c hc => Nat.isDigit_of_mem_toDigits (by decide) (by decide) hc) Nat.ofDigitChars_ten_toDigits

theorem yearText (year : Nat) : ShowsNumber (Date.yearText year).toList year := by
  unfold Date.yearText
  split_ifs
  · exact padded 4 year
  · rw [String.toList_append]
    exact (decimal year).plus

theorem not_mem {sep : Char} (h : ShowsNumber field n) (hsep : (sep.isDigit || sep = '+') = false) : sep ∉ field := by
  intro hmem
  rcases h.chars sep hmem with hc | hc <;> simp [hc] at hsep

/-- **Three fields** between separators that no number has. -/
theorem split_three {sep : Char} {x y z : List Char} {k l m : Nat} (hsep : (sep.isDigit || sep = '+') = false)
    (hx : ShowsNumber x k) (hy : ShowsNumber y l) (hz : ShowsNumber z m) :
    split sep (x ++ sep :: (y ++ sep :: z)) = [x, y, z] := by
  rw [split_append_sep (hx.not_mem hsep), split_append_sep (hy.not_mem hsep), split_of_not_mem (hz.not_mem hsep)]

/-- What separates the fields is the only character beside theirs. -/
theorem three_not_mem {sep c : Char} {x y z : List Char} {k l m : Nat} (hc : (c.isDigit || c = '+') = false)
    (hne : c ≠ sep) (hx : ShowsNumber x k) (hy : ShowsNumber y l) (hz : ShowsNumber z m) :
    c ∉ x ++ sep :: (y ++ sep :: z) := by
  simp [hne, hx.not_mem hc, hy.not_mem hc, hz.not_mem hc]

end ShowsNumber

namespace Date

theorem toList_text (d : Date) : d.text.toList = (yearText d.year).toList ++ '-' ::
    ((Numeral.padded 2 d.month).toList ++ '-' :: (Numeral.padded 2 d.day).toList) := by
  simp [text]

theorem read?_text (d : Date) : read? d.text.toList = some d := by
  rw [read?, toList_text, ShowsNumber.split_three (by decide) (.yearText _) (.padded _ _) (.padded _ _)]
  simp only [(ShowsNumber.yearText _).number, (ShowsNumber.padded _ _).number]

theorem blank_not_mem_text (d : Date) : ' ' ∉ d.text.toList := by
  rw [toList_text]
  exact ShowsNumber.three_not_mem (by decide) (by decide) (.yearText _) (.padded _ _) (.padded _ _)

end Date

namespace TimeOfDay

theorem toList_text (t : TimeOfDay) : t.text.toList = (Numeral.padded 2 t.hour).toList ++ ':' ::
    ((Numeral.padded 2 t.minute).toList ++ ':' :: (Numeral.padded 2 t.second).toList) := by
  simp [text]

theorem read?_text (t : TimeOfDay) : read? t.text.toList = some t := by
  rw [read?, toList_text, ShowsNumber.split_three (by decide) (.padded _ _) (.padded _ _) (.padded _ _)]
  simp only [(ShowsNumber.padded _ _).number]

theorem blank_not_mem_text (t : TimeOfDay) : ' ' ∉ t.text.toList := by
  rw [toList_text]
  exact ShowsNumber.three_not_mem (by decide) (by decide) (.padded _ _) (.padded _ _) (.padded _ _)

/-- The time of day exists. -/
structure Valid (t : TimeOfDay) : Prop where
  hour : t.hour < 24
  minute : t.minute < 60
  second : t.second < 60

/-- The seconds from midnight. -/
def seconds (t : TimeOfDay) : Nat := 3600 * t.hour + 60 * t.minute + t.second

theorem valid_ofSeconds {n : Nat} (h : n < 86400) : (ofSeconds n).Valid :=
  ⟨Nat.div_lt_of_lt_mul h, Nat.mod_lt _ (by decide), Nat.mod_lt _ (by decide)⟩

theorem seconds_ofSeconds (n : Nat) : (ofSeconds n).seconds = n := by
  have hhour : n / 3600 = n / 60 / 60 := (Nat.div_div_eq_div_mul n 60 60).symm
  show 3600 * (n / 3600) + 60 * (n / 60 % 60) + n % 60 = n
  omega

end TimeOfDay

namespace Moment

/-- **The text of a moment** can be read back. -/
theorem read?_text (m : Moment) : read? m.text = some m := by
  have htext : m.text.toList = m.date.text.toList ++ ' ' :: (m.time.text.toList ++ ' ' :: ['U', 'T', 'C']) := by
    simp [text]
  rw [read?, htext, split_append_sep m.date.blank_not_mem_text, split_append_sep m.time.blank_not_mem_text,
    split_of_not_mem (by decide)]
  simp only [Date.read?_text, TimeOfDay.read?_text]

/-- The date and the time of day exist. -/
structure Valid (m : Moment) : Prop where
  date : m.date.Valid
  time : m.time.Valid

/-- The seconds from 1970-01-01 00:00:00. -/
def seconds (m : Moment) : Nat := 86400 * m.date.number + m.time.seconds

/-- **The moment after so many seconds** exists, and the calendar counts as many seconds up to it. -/
theorem ofSeconds?_eq_some {lastYear n : Nat} (hn : n < 0x8000000000000000)
    (hyear : 1970 + n / 86400 / 365 ≤ lastYear) :
    ∃ m, ofSeconds? lastYear n = some m ∧ m.Valid ∧ 1970 ≤ m.date.year ∧ m.seconds = n := by
  have hdate : Date.ofDays? lastYear (n / 86400) = some (Date.ofDays (n / 86400)) :=
    if_pos (Nat.le_trans (Date.year_ofDays_le _) hyear)
  obtain ⟨hfirst, hnumber⟩ := Date.number_ofDays (n / 86400)
  refine ⟨⟨Date.ofDays (n / 86400), .ofSeconds (n % 86400)⟩, ?_, ⟨Date.valid_ofDays _, ?_⟩, hfirst, ?_⟩
  · rw [ofSeconds?, if_pos hn, hdate]
    rfl
  · exact TimeOfDay.valid_ofSeconds (Nat.mod_lt _ (by decide))
  · rw [seconds, hnumber, TimeOfDay.seconds_ofSeconds, Nat.div_add_mod]

end Moment

namespace Ticks

theorem toNat_div_clockFrequency (ticks : UInt64) : (ticks / clockFrequency).toNat = ticks.toNat / 50000000 := rfl

/-- **The text of a time stamp** in a calendar that goes up to the year 262000 or further: it is that of a moment that
exists, as many seconds after 1970-01-01 00:00:00 as the clock has counted in full. -/
theorem textUntil_moment {lastYear : Nat} (hyear : 262000 ≤ lastYear) (ticks : UInt64) :
    ∃ m : Moment, textUntil lastYear ticks = m.text ∧ Moment.read? (textUntil lastYear ticks) = some m ∧ m.Valid ∧
      1970 ≤ m.date.year ∧ m.seconds = ticks.toNat / 50000000 ∧ textUntil lastYear ticks ≠ "out of range" ∧
      ∀ other, textUntil lastYear other = textUntil lastYear ticks ↔
        other.toNat / 50000000 = ticks.toNat / 50000000 := by
  have hall : ∀ ticks : UInt64, ∃ m : Moment, textUntil lastYear ticks = m.text ∧ m.Valid ∧ 1970 ≤ m.date.year ∧
      m.seconds = ticks.toNat / 50000000 := by
    intro ticks
    have hlt := ticks.toNat_lt
    have hcounted : ticks.toNat / 50000000 < 0x8000000000000000 := by omega
    have hreached : 1970 + ticks.toNat / 50000000 / 86400 / 365 ≤ lastYear := by omega
    obtain ⟨m, hm, hvalid, hfirst, hseconds⟩ := Moment.ofSeconds?_eq_some hcounted hreached
    refine ⟨m, ?_, hvalid, hfirst, hseconds⟩
    rw [textUntil, toNat_div_clockFrequency, hm]
  obtain ⟨m, htext, hvalid, hfirst, hseconds⟩ := hall ticks
  have hread : Moment.read? (textUntil lastYear ticks) = some m := htext ▸ m.read?_text
  refine ⟨m, htext, hread, hvalid, hfirst, hseconds, fun hout => ?_, fun other => ⟨fun hsame => ?_, fun hsame => ?_⟩⟩
  · have hnone : Moment.read? "out of range" = none := by decide +kernel
    rw [hout, hnone] at hread
    nomatch hread
  · obtain ⟨m', htext', -, -, hseconds'⟩ := hall other
    have hread' := m'.read?_text
    rw [← htext', hsame, hread] at hread'
    rw [← hseconds, ← hseconds', Option.some.inj hread']
  · rw [textUntil, textUntil, toNat_div_clockFrequency, toNat_div_clockFrequency, hsame]

/-- The last time stamp of all. -/
theorem text_last_moment : ∃ m : Moment, text 18446744073709551615 = m.text ∧ m.Valid ∧ m.seconds = 368934881474 ∧
    text 18446744073709551615 = "+13661-01-29 15:31:14 UTC" := by
  have hyear : 262000 ≤ 262142 := by decide
  obtain ⟨m, htext, -, hvalid, -, hseconds, -⟩ := textUntil_moment hyear 18446744073709551615
  exact ⟨m, htext, hvalid, hseconds, by decide +kernel⟩

end Ticks

end TimingFleet

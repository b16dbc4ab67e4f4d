import TimingFleet.Text.Numeral

/-!
# Durations

Durations are whole milliseconds.  Their text is in seconds with as many decimals as are needed, or in
milliseconds below one second.
-/

namespace TimingFleet

open Text

/-- A duration in milliseconds. -/
structure Duration where
  milliseconds : Nat
  deriving DecidableEq, Repr

namespace Duration

/-- No time at all. -/
def zero : Duration := ⟨0⟩

/-- The digits of a fraction in thousandths without trailing zeros. -/
def fractionDigits (thousandths : Nat) : String :=
  if thousandths % 10 ≠ 0 then Numeral.padded 3 thousandths
  else if thousandths % 100 ≠ 0 then Numeral.padded 2 (thousandths / 10)
  else Numeral.padded 1 (thousandths / 100)

/-- The duration as it stands in log lines. -/
def text (d : Duration) : String :=
  let ms := d.milliseconds
  if ms = 0 then "0ns"
  else if ms < 1000 then Numeral.decimal ms ++ "ms"
  else if ms % 1000 = 0 then Numeral.decimal (ms / 1000) ++ "s"
  else Numeral.decimal (ms / 1000) ++ "." ++ fractionDigits (ms % 1000) ++ "s"

end Duration

end TimingFleet

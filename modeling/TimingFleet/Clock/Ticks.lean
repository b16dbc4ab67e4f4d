import TimingFleet.Clock.Date

/-!
# Time stamps

A time stamp counts ticks of the 50 MHz system clock in sixty-four bits.  Registers hold it as a block
of two words, the low word first.  Differences of time stamps wrap round, and a number of seconds too
large for the counter stands for its largest value.
-/

namespace TimingFleet

open Text

/-- Ticks per second. -/
def clockFrequency : UInt64 := 50000000

namespace Ticks

/-- The time stamp in a block of words; missing words count as zero and further words are ignored. -/
def ofWords (words : List UInt32) : UInt64 :=
  (words.getD 1 0).toUInt64 <<< 32 ||| (words.getD 0 0).toUInt64

/-- The two words of a time stamp. -/
def toWords (ticks : UInt64) : List UInt32 := [ticks.toUInt32, (ticks >>> 32).toUInt32]

/-- The ticks in a number of seconds, at most the largest time stamp. -/
def ofSeconds (seconds : UInt64) : UInt64 :=
  UInt64.ofNat (min (seconds.toNat * clockFrequency.toNat) (UInt64.size - 1))

/-- The date and time of a time stamp that counts from 1970, in a calendar that ends with the year
`lastYear`. -/
def textUntil (lastYear : Nat) (ticks : UInt64) : String :=
  match Moment.ofSeconds? lastYear (ticks / clockFrequency).toNat with
  | some moment => moment.text
  | none => "out of range"

/-- The date and time of a time stamp that counts from 1970; there are dates up to the year 262142. -/
def text (ticks : UInt64) : String := textUntil 262142 ticks

end Ticks

/-- Send and receive time stamps of one echo. -/
structure Echo where
  sent : UInt64
  received : UInt64
  deriving DecidableEq, Repr

/-- Ticks from sending to receiving, also when the counter wrapped round in between. -/
def Echo.delay (e : Echo) : UInt64 := e.received - e.sent

end TimingFleet

import TimingFleet.Register.Path
import TimingFleet.Text.Numeral

/-!
# Registers common to overlord and fanout boards

Identification, resets, status and PLL registers, the names of board, carrier and design codes, and the
text in the PLL's design id: four ASCII characters to a word, the first in the high byte.
-/

namespace TimingFleet

open Text

namespace BoardNode

/-- Firmware version word. -/
def version : NodePath := ⟨["version"]⟩

/-- Board type code. -/
def boardType : NodePath := ⟨["io", "config", "board_type"]⟩

/-- Carrier type code. -/
def carrierType : NodePath := ⟨["io", "config", "carrier_type"]⟩

/-- Design type code. -/
def designType : NodePath := ⟨["io", "config", "design_type"]⟩

/-- Soft reset of the whole design. -/
def softReset : NodePath := ⟨["io", "csr", "ctrl", "soft_rst"]⟩

/-- PLL reset. -/
def pllReset : NodePath := ⟨["io", "csr", "ctrl", "pll_rst"]⟩

/-- I2C master reset. -/
def i2cReset : NodePath := ⟨["io", "csr", "ctrl", "rst_i2c"]⟩

/-- I2C mux reset. -/
def i2cMuxReset : NodePath := ⟨["io", "csr", "ctrl", "rst_i2cmux"]⟩

/-- Lock monitor reset. -/
def lockMonitorReset : NodePath := ⟨["io", "csr", "ctrl", "rst_lock_mon"]⟩

/-- Status group. -/
def status : NodePath := ⟨["io", "csr", "stat"]⟩

/-- Configuration id of the PLL. -/
def pllDesignId : NodePath := ⟨["io", "pll", "design_id"]⟩

/-- Live PLL flags. -/
def pllStatus : NodePath := ⟨["io", "pll", "stat"]⟩

/-- Sticky PLL flags. -/
def pllSticky : NodePath := ⟨["io", "pll", "sticky"]⟩

end BoardNode

namespace FanoutNode

/-- Input mux selector. -/
def mux : NodePath := ⟨["io", "csr", "ctrl", "mux"]⟩

/-- Loss of lock of the selected slot. -/
def cdrLossOfLock : NodePath := ⟨["io", "csr", "stat", "cdr_lol"]⟩

/-- Loss of signal of the selected slot. -/
def sfpLossOfSignal : NodePath := ⟨["io", "csr", "stat", "sfp_los"]⟩

/-- The endpoint that receives from the overlord. -/
def uplink : NodePath := ⟨["fanout", "ept"]⟩

end FanoutNode

/-- Slots behind the mux of a fanout. -/
def fanoutSlots : UInt32 := 8

/-- Words in the PLL's design id. -/
def designIdWords : Nat := 8

/-- Names by code. -/
abbrev CodeNames := List (UInt32 × String)

namespace CodeNames

/-- Names of board types. -/
def boards : CodeNames := [(0, "pc059"), (1, "microzed"), (2, "tlu"), (3, "pc069"), (4, "fib")]

/-- Names of carrier types. -/
def carriers : CodeNames :=
  [(0, "enclustra-a35"), (1, "kc705"), (2, "microzed"), (3, "atfc"), (4, "afc")]

/-- Names of design types. -/
def designs : CodeNames :=
  [(0, "master"), (1, "ouroboros"), (2, "ouroboros-sim"), (3, "test-stand"), (4, "endpoint"),
    (5, "fanout"), (6, "overlord")]

/-- The name of a code. -/
def name? (names : CodeNames) (code : UInt32) : Option String := names.lookup code

/-- The name of a code, or the code itself if it has none. -/
def nameOrHex (names : CodeNames) (code : UInt32) : String :=
  (names.name? code).getD (Numeral.hex code.toNat)

end CodeNames

/-! ## Design id text -/

namespace DesignId

/-- The bytes of a word, the high byte first. -/
def bytesOfWord (word : UInt32) : List UInt8 :=
  [(word >>> 24).toUInt8, (word >>> 16).toUInt8, (word >>> 8).toUInt8, word.toUInt8]

/-- The word of four bytes, the high byte first. -/
def wordOfBytes (a b c d : UInt8) : UInt32 :=
  a.toUInt32 <<< 24 ||| b.toUInt32 <<< 16 ||| c.toUInt32 <<< 8 ||| d.toUInt32

/-- A printable ASCII byte, the blank included. -/
def isPrintable (b : UInt8) : Bool := 0x20 ≤ b && b ≤ 0x7e

/-- The printable characters of the words, without blanks at either end. -/
def decode (words : List UInt32) : String :=
  let chars := ((words.flatMap bytesOfWord).filter isPrintable).map fun b => Char.ofNat b.toNat
  String.ofList ((chars.dropWhile (· = ' ')).reverse.dropWhile (· = ' ')).reverse

/-- Groups bytes into words; a last group of fewer than four is left out. -/
def wordsOfBytes : List UInt8 → List UInt32
  | a :: b :: c :: d :: rest => wordOfBytes a b c d :: wordsOfBytes rest
  | _ => []

/-- The bytes of the text in `words` words, cut or filled with zero bytes. -/
def encode (text : String) (words : Nat) : List UInt32 :=
  let bytes := text.toList.flatMap String.utf8EncodeChar
  wordsOfBytes ((bytes ++ List.replicate (4 * words - bytes.length) 0).take (4 * words))

end DesignId

end TimingFleet

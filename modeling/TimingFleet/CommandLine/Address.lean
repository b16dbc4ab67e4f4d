import TimingFleet.Register.Master
import TimingFleet.Text.Numeral

/-!
# Endpoint addresses as operators write them

An address is a numeral in decimal, or in hexadecimal after `0x`.  It must fit a word before it is held
against the range of addresses.
-/

namespace TimingFleet.CommandLine

open Text

/-- Why an address is refused. -/
inductive AddressError where
  | notANumeral (text : String) (fault : Numeral.Fault)
  | outOfRange (value : UInt32)
  deriving DecidableEq, Repr

/-- The wording of the error. -/
def AddressError.message : AddressError → String
  | .notANumeral text fault => "'" ++ text ++ "': " ++ fault.message
  | .outOfRange value =>
    Numeral.hex value.toNat ++ " is not in the range " ++ Numeral.hex minAddress.toNat ++ "-" ++
      Numeral.hex maxAddress.toNat

/-- Reads the numeral of an address. -/
def readAddressNumeral : List Char → Except Numeral.Fault UInt32
  | '0' :: 'x' :: cs => Numeral.readWord 16 cs
  | '0' :: 'X' :: cs => Numeral.readWord 16 cs
  | cs => Numeral.readWord 10 cs

/-- Reads an endpoint address. -/
def readAddress (text : String) : Except AddressError UInt32 :=
  match readAddressNumeral text.toList with
  | .error fault => .error (.notANumeral text fault)
  | .ok value => if isEndpointAddress value then .ok value else .error (.outOfRange value)

end TimingFleet.CommandLine

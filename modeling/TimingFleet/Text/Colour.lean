/-!
# Coloured text

A colour is switched on by one escape sequence and all colours are switched off by another.  Painting
a text that already holds the second sequence switches the outer colour on again after it, so a
painted text may stand inside another.  Without colours, painting does nothing.
-/

namespace TimingFleet.Text

/-- The colours used on the operator's terminal. -/
inductive Colour where
  | red
  | green
  | yellow
  | blue
  | cyan
  deriving DecidableEq, Repr

/-- How colours are written. -/
structure Palette where
  /-- A text in a colour. -/
  paint : Colour → String → String

namespace Colour

/-- The parameter of the colour's escape sequence. -/
def code : Colour → String
  | .red => "31"
  | .green => "32"
  | .yellow => "33"
  | .blue => "34"
  | .cyan => "36"

/-- The escape sequence with the given parameter. -/
def sequence (parameter : List Char) : List Char := '\x1b' :: '[' :: parameter ++ ['m']

/-- Switches the colour on. -/
def opening (c : Colour) : List Char := sequence c.code.toList

/-- Switches every colour off. -/
def reset : List Char := ['\x1b', '[', '0', 'm']

/-- Puts `style` after every reset in the text.  Resets do not overlap. -/
def reopen (style : List Char) : List Char → List Char
  | '\x1b' :: '[' :: '0' :: 'm' :: cs => reset ++ style ++ reopen style cs
  | c :: cs => c :: reopen style cs
  | [] => []

/-- The text in the colour `c`. -/
def paint (palette : Palette) (c : Colour) (text : String) : String := palette.paint c text

end Colour

namespace Palette

/-- Colours are not written. -/
def plain : Palette := ⟨fun _ text => text⟩

/-- Colours are written as escape sequences. -/
def coloured : Palette :=
  ⟨fun c text => String.ofList (c.opening ++ Colour.reopen c.opening text.toList ++ Colour.reset)⟩

end Palette

end TimingFleet.Text

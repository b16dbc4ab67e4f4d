import Std.Data.ExtTreeMap
import TimingFleet.Text.Escape
import TimingFleet.Text.Numeral
import TimingFleet.Text.Split

/-!
# Styles across lines

A style is what the sequences before a place in a text have switched on.  When a text is cut into lines,
`styledLines` ends the style at the end of each line and switches it on again at the start of the next
one, so each line looks by itself as it did in the text.
-/

namespace TimingFleet.Text

/-- The settings that are switched on: from the place of a setting, which gives the order of settings, to the
parameters that switch it on. -/
abbrev Settings := Std.ExtTreeMap Nat (List Nat) compare

/-- What the sequences so far have done. -/
structure Style where
  settings : Settings := ∅
  /-- Everything has been switched off at once. -/
  cleared : Bool := false
  /-- A parameter without a meaning has been read since then. -/
  unknown : Bool := false

namespace Style

/-- The place of the font. -/
def fontPlace : Nat := 10

/-- The place of the colour of underlines. -/
def underlinePlace : Nat := 50

/-- The place of the font, of the colours of text and ground, and of the settings that are only on or off;
the latter are known by their parameter. -/
def place? (parameter : Nat) : Option Nat :=
  if 11 ≤ parameter && parameter ≤ 19 then some fontPlace
  else if 30 ≤ parameter && parameter ≤ 37 || 90 ≤ parameter && parameter ≤ 97 then some 38
  else if 40 ≤ parameter && parameter ≤ 47 || 100 ≤ parameter && parameter ≤ 107 then some 48
  else if [1, 2, 3, 4, 5, 6, 7, 8, 9, 20, 21, 26, 51, 52, 53, 60, 61, 62, 63, 64, 73, 74].contains
      parameter then
    some parameter
  else none

/-- The parameters that switch settings off, with the places of these. -/
def closers : List (Nat × List Nat) :=
  [(10, [fontPlace]), (22, [1, 2]), (23, [3, 20]), (24, [4, 21]), (25, [5, 6]), (27, [7]), (28, [8]),
   (29, [9]), (39, [38]), (49, [48]), (50, [26]), (54, [51, 52]), (55, [53]),
   (65, [60, 61, 62, 63, 64]), (59, [underlinePlace]), (75, [73, 74])]

/-- The places of what a parameter switches off; the one that ends italic letters leaves black letter. -/
def switchedOff? (parameter : Nat) : Option (List Nat) :=
  if parameter = 23 then some [3] else closers.lookup parameter

/-! ## Reading sequences -/

/-- The style after a parameter that stands for itself. -/
def set (s : Style) (parameter : Nat) : Style :=
  if parameter = 0 then { cleared := true }
  else
    match switchedOff? parameter with
    | some places => { s with settings := places.foldl (fun m place => m.erase place) s.settings }
    | none =>
      match place? parameter with
      | some place => { s with settings := s.settings.insert place [parameter] }
      | none => { s with unknown := true }

/-- The place of a colour that a parameter announces; the colour is chosen by a number from a palette or by
its parts. -/
def colourPlace? (parameter : Nat) : Option Nat :=
  if parameter = 38 || parameter = 48 then some parameter
  else if parameter = 58 then some underlinePlace
  else none

/-- A parameter that has a meaning of its own is written without leading zeros. -/
def parameter? (digits : List Char) : Option Nat :=
  match Numeral.read 10 UInt8.size digits with
  | .ok n => if (Numeral.decimal n).toList = digits then some n else none
  | .error _ => none

/-- A number of a palette or a part of a colour; what is no number of eight bits counts as zero. -/
def colourPart (digits : List Char) : Nat :=
  match Numeral.read 10 UInt8.size digits with
  | .ok n => n
  | .error _ => 0

/-- The style after a list of parameters.  A parameter that announces a colour is followed by how the colour
is chosen; a choice of any other kind, or one that is not complete, is passed over. -/
def setAll (s : Style) : List (List Char) → Style
  | [] => s
  | digits :: rest =>
    match parameter? digits with
    | none => setAll { s with unknown := true } rest
    | some n =>
      match colourPlace? n with
      | some place =>
        match rest with
        | ['5'] :: number :: rest =>
          setAll { s with settings := s.settings.insert place [n, 5, colourPart number] } rest
        | ['2'] :: red :: green :: blue :: rest =>
          let parts := [colourPart red, colourPart green, colourPart blue]
          setAll { s with settings := s.settings.insert place (n :: 2 :: parts) } rest
        | ['5'] :: _ => s
        | ['2'] :: _ => s
        | _ :: rest => setAll s rest
        | [] => s
      | none => setAll (s.set n) rest

/-- The parameters in a sequence. -/
def parameters : List Char → List (List Char)
  | '\x1b' :: '[' :: cs => split ';' cs.dropLast
  | _ => []

/-- The style after a piece. -/
def afterPiece (s : Style) : Piece → Style
  | .style cs => s.setAll (parameters cs)
  | .shown _ | .order _ => s

/-- The style after a text. -/
def after (s : Style) (cs : List Char) : Style := (pieces cs).foldl afterPiece s

/-! ## Writing sequences -/

/-- A sequence with the given parameters. -/
def sequence (parameters : List Nat) : List Char :=
  '\x1b' :: '[' :: join [';'] (parameters.map fun n => (Numeral.decimal n).toList) ++ ['m']

/-- There is something to switch off or on again.  A font by itself is left alone, and an unknown parameter
counts only after everything was switched off. -/
def isActive (s : Style) : Bool :=
  s.cleared && s.unknown || s.settings.keys.any (· ≠ fontPlace)

/-- Switches the style on, one sequence for each setting. -/
def opening (s : Style) : List Char :=
  if s.isActive then s.settings.values.flatMap sequence else []

/-- Switches everything off if that may be needed for a parameter without a meaning. -/
def clearing (needed : Bool) : List Char := if needed then sequence [0] else []

/-- Switches the style off, one sequence for settings that are switched off together. -/
def closing (s : Style) : List Char :=
  if s.isActive then
    let used := closers.filter fun (_, places) => places.any s.settings.contains
    clearing (s.unknown && s.cleared) ++ (used.flatMap fun (parameter, _) => sequence [parameter]) ++
      clearing s.unknown
  else []

/-- Lines in a row, the first of which begins in a style.  An empty line stays empty. -/
def openEach (s : Style) : List (List Char) → List (List Char)
  | [] => []
  | line :: rest =>
    if line = [] then line :: openEach s rest
    else (s.opening ++ line ++ (s.after line).closing) :: openEach (s.after line) rest

end Style

/-- The lines of a text, each in the style that it has there.  A text of one line stays as it is. -/
def styledLines (cs : List Char) : List (List Char) :=
  match split '\n' cs with
  | [line] => [line]
  | rows => Style.openEach {} rows

end TimingFleet.Text

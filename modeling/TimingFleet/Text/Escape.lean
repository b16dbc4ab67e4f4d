/-!
# Escape sequences

A terminal takes some runs of characters as orders and shows the others.  `pieces` cuts a text into what
is shown and what is not, by the states of a terminal: an escape character begins a sequence, a bracket
after it one with parameters, and some letters a string for the terminal.  A control character inside a
sequence is carried out at once, and a sequence that is given up or too long is shown.  A sequence that
never ends is shown with the text before it, but not by itself.
-/

namespace TimingFleet.Text

/-- A piece of a text. -/
inductive Piece where
  /-- Characters that are shown. -/
  | shown (cs : List Char)
  /-- A sequence with parameters that sets how text looks. -/
  | style (cs : List Char)
  /-- Any other sequence. -/
  | order (cs : List Char)
  deriving DecidableEq, Repr

namespace Piece

/-- The characters of the piece. -/
def chars : Piece → List Char
  | .shown cs | .style cs | .order cs => cs

/-- The characters that are shown. -/
def text : Piece → List Char
  | .shown cs => cs
  | .style _ | .order _ => []

end Piece

namespace Escape

/-- What a terminal is in the middle of. -/
inductive Reading where
  | text
  /-- After an escape character. -/
  | escape
  /-- After an escape character and characters that select a set of sequences. -/
  | selector
  /-- After an opening bracket. -/
  | bracket
  /-- Among parameters, after so many marks and separators. -/
  | parameters (marks separators : Nat)
  /-- After parameters, before the letter. -/
  | suffix (marks separators : Nat)
  /-- In a sequence with parameters that is malformed. -/
  | malformed
  /-- In a string that ends with a bell. -/
  | command
  /-- At the beginning of a string for the device. -/
  | device
  /-- Among the parameters of such a string. -/
  | deviceParameters
  /-- After these parameters, before the letter. -/
  | deviceSuffix
  /-- In a string that ends with a string terminator. -/
  | controlString
  deriving DecidableEq, Repr

/-- Which kind of sequence ends. -/
inductive Ending where
  | style
  | order
  deriving DecidableEq, Repr

/-- The piece of a sequence that has ended. -/
def Ending.piece : Ending → List Char → Piece
  | .style, cs => .style cs
  | .order, cs => .order cs

/-- What a character does: the reading after it, how many bytes it shows, and whether it ends a sequence. -/
structure Step where
  reading : Reading
  shown : Nat := 0
  ending : Option Ending := none
  deriving DecidableEq, Repr

/-- A character between parameters and the letter of a sequence, or before its letter. -/
def isIntermediate (c : Char) : Bool := ' ' ≤ c && c ≤ '/'

/-- A digit or a separator of parameters. -/
def isParameter (c : Char) : Bool := '0' ≤ c && c ≤ ';'

/-- A separator of parameters or of parts of one. -/
def isSeparator (c : Char) : Bool := c = ';' || c = ':'

/-- The mark of a private sequence. -/
def isPrivate (c : Char) : Bool := '<' ≤ c && c ≤ '?'

/-- The last character of a sequence with parameters. -/
def isFinal (c : Char) : Bool := '@' ≤ c && c ≤ '~'

/-- The last character of a sequence without parameters. -/
def isShortFinal (c : Char) : Bool := '0' ≤ c && c ≤ '~'

/-- A character after an escape character that begins a string without parameters. -/
def opensString (c : Char) : Bool := c = 'X' || c = '^' || c = '_'

/-- The most marks, before and after the parameters, that a sequence may have. -/
def maxMarks : Nat := 1

/-- The most separators that the parameters of a sequence may have. -/
def maxSeparators : Nat := 31

/-- A byte that is carried out where text is shown. -/
def isExecuted (byte : UInt8) : Bool :=
  byte ≤ 0x8f || 0x91 ≤ byte && byte ≤ 0x9a || byte = 0x9c

/-- A sequence with parameters ends at `c`.  One with too many marks or separators is none. -/
def endParameters (marks separators : Nat) (c : Char) : Step :=
  if maxMarks < marks || maxSeparators < separators then ⟨.text, 0, none⟩
  else ⟨.text, 0, some (if c = 'm' && marks = 0 then .style else .order)⟩

/-- A further character of parameters. -/
def stepParameters (marks separators : Nat) (c : Char) : Step :=
  ⟨.parameters marks (separators + if isSeparator c then 1 else 0), 0, none⟩

/-- A character of a string that ends with a string terminator.  The terminator is a byte, which may stand
within a character. -/
def stepString (c : Char) : Step :=
  match (String.utf8EncodeChar c).dropWhile (· ≠ 0x9c) with
  | [] => ⟨.controlString, 0, none⟩
  | _ :: rest => ⟨.text, rest.countP isExecuted, none⟩

/-- A character below `U+0080` that is no control character, while reading a sequence. -/
def stepSequence (r : Reading) (c : Char) : Step :=
  match r with
  | .text => ⟨.text, 1, none⟩
  | .escape =>
    if isIntermediate c then ⟨.selector, 0, none⟩
    else if c = '[' then ⟨.bracket, 0, none⟩
    else if c = ']' then ⟨.command, 0, none⟩
    else if c = 'P' then ⟨.device, 0, none⟩
    else if opensString c then ⟨.controlString, 0, none⟩
    else if isShortFinal c then ⟨.text, 0, some .order⟩
    else ⟨.escape, 0, none⟩
  | .selector => if isShortFinal c then ⟨.text, 0, some .order⟩ else ⟨.selector, 0, none⟩
  | .bracket =>
    if isIntermediate c then ⟨.suffix 1 0, 0, none⟩
    else if isPrivate c then ⟨.parameters 1 0, 0, none⟩
    else if isParameter c then stepParameters 0 0 c
    else if isFinal c then endParameters 0 0 c
    else ⟨.bracket, 0, none⟩
  | .parameters marks separators =>
    if isIntermediate c then ⟨.suffix (marks + 1) separators, 0, none⟩
    else if isPrivate c then ⟨.malformed, 0, none⟩
    else if isFinal c then endParameters marks separators c
    else stepParameters marks separators c
  | .suffix marks separators =>
    if isParameter c || isPrivate c then ⟨.malformed, 0, none⟩
    else if isFinal c then endParameters marks separators c
    else ⟨.suffix (if isIntermediate c then marks + 1 else marks) separators, 0, none⟩
  | .malformed => ⟨if isFinal c then .text else .malformed, 0, none⟩
  | .command => ⟨.command, 0, none⟩
  | .device =>
    if isIntermediate c then ⟨.deviceSuffix, 0, none⟩
    else if isFinal c then ⟨.controlString, 0, none⟩
    else if isParameter c || isPrivate c then ⟨.deviceParameters, 0, none⟩
    else ⟨.device, 0, none⟩
  | .deviceParameters =>
    if isIntermediate c then ⟨.deviceSuffix, 0, none⟩
    else if isPrivate c || isFinal c then ⟨.controlString, 0, none⟩
    else ⟨.deviceParameters, 0, none⟩
  | .deviceSuffix =>
    if isParameter c || isPrivate c || isFinal c then ⟨.controlString, 0, none⟩
    else ⟨.deviceSuffix, 0, none⟩
  | .controlString => stepString c

/-- A control character below the blank, other than the escape character and the two that give up a
sequence. -/
def stepControl (r : Reading) (c : Char) : Step :=
  match r with
  | .command => if c = '\x07' then ⟨.text, 0, some .order⟩ else ⟨.command, 0, none⟩
  | .device | .deviceParameters | .deviceSuffix | .controlString => ⟨r, 0, none⟩
  | _ => ⟨r, 1, none⟩

/-- A character from `U+0080` on. -/
def stepWide (r : Reading) (c : Char) : Step :=
  match r with
  | .text => ⟨.text, c.utf8Size, none⟩
  | .controlString => stepString c
  | r => ⟨r, 0, none⟩

/-- A string that ends with a bell also ends where another sequence begins or it is given up. -/
def cutShort : Reading → Option Ending
  | .command => some .order
  | _ => none

/-- What a character does. -/
def step (r : Reading) (c : Char) : Step :=
  if c = '\x1b' then ⟨.escape, 0, cutShort r⟩
  else if c = '\x18' || c = '\x1a' then ⟨.text, 1, cutShort r⟩
  else if c < ' ' then stepControl r c
  else if c < '\u0080' then stepSequence r c
  else stepWide r c

/-- The characters that make up the first `n` bytes, and the others. -/
def splitBytes : Nat → List Char → List Char × List Char
  | 0, cs => ([], cs)
  | _, [] => ([], [])
  | n + 1, c :: cs =>
    let (first, rest) := splitBytes (n + 1 - c.utf8Size) cs
    (c :: first, rest)

/-- A run of characters as shown text, unless there are none. -/
def shownPiece (cs : List Char) : List Piece := if cs = [] then [] else [.shown cs]

/-- A run of characters as a sequence, unless there are none. -/
def orderPiece (cs : List Char) : List Piece := if cs = [] then [] else [.order cs]

/-- The pieces of a run that ends with a sequence: as many bytes as were shown, and the rest. -/
def cut (shown : Nat) (run : List Char) (ending : Ending) : List Piece :=
  let (text, sequence) := splitBytes shown run
  shownPiece text ++ [ending.piece sequence]

/-- The pieces of a run that the end of the text cuts off: a sequence if none of it is shown, and text
otherwise. -/
def cutOff (shown : Nat) (run : List Char) : List Piece :=
  if shown = 0 then orderPiece run else shownPiece run

/-- An escape character comes right after another one, which may have ended a string. -/
def isDoubled (r : Reading) (run : List Char) (c : Char) : Bool :=
  c = '\x1b' && r = .escape && run.headD '\x1b' = '\x1b'

/-- The pieces of a text, when `run` holds what has been read since the last piece, the last character
first, and `shown` of its bytes are shown.  A doubled escape character hides the first character of the
run. -/
def piecesFrom (r : Reading) (run : List Char) (shown : Nat) : List Char → List Piece
  | [] => cutOff shown run.reverse
  | c :: cs =>
    let s := step r c
    match s.ending with
    | some ending => cut (shown + s.shown) (c :: run).reverse ending ++ piecesFrom s.reading [] 0 cs
    | none =>
      if isDoubled r run c then
        orderPiece ((c :: run).reverse.take 1) ++ piecesFrom s.reading (c :: run).dropLast shown cs
      else piecesFrom s.reading (c :: run) (shown + s.shown) cs

/-! ## Nothing is lost -/

theorem splitBytes_append (n : Nat) (cs : List Char) :
    (splitBytes n cs).1 ++ (splitBytes n cs).2 = cs := by
  induction cs generalizing n with
  | nil => cases n <;> rfl
  | cons c cs ih =>
    cases n with
    | zero => rfl
    | succ n => simp [splitBytes, ih]

theorem chars_shownPiece (cs : List Char) : (shownPiece cs).flatMap Piece.chars = cs := by
  unfold shownPiece
  split
  · simp_all
  · simp [Piece.chars]

theorem chars_orderPiece (cs : List Char) : (orderPiece cs).flatMap Piece.chars = cs := by
  unfold orderPiece
  split
  · simp_all
  · simp [Piece.chars]

theorem chars_cutOff (shown : Nat) (run : List Char) :
    (cutOff shown run).flatMap Piece.chars = run := by
  unfold cutOff
  split
  · exact chars_orderPiece run
  · exact chars_shownPiece run

theorem chars_cut (shown : Nat) (run : List Char) (ending : Ending) :
    (cut shown run ending).flatMap Piece.chars = run := by
  have h : (ending.piece (splitBytes shown run).2).chars = (splitBytes shown run).2 := by
    cases ending <;> rfl
  simp [cut, chars_shownPiece, h, splitBytes_append]

theorem chars_piecesFrom (r : Reading) (run : List Char) (shown : Nat) (cs : List Char) :
    (piecesFrom r run shown cs).flatMap Piece.chars = run.reverse ++ cs := by
  induction cs generalizing r run shown with
  | nil => simp [piecesFrom, chars_cutOff]
  | cons c cs ih =>
    simp only [piecesFrom]
    split
    · simp [chars_cut, ih]
    · split
      · rw [List.flatMap_append, chars_orderPiece, ih, ← List.tail_reverse, ← List.drop_one,
          ← List.append_assoc, List.take_append_drop]
        simp
      · simp [ih]

end Escape

/-- The pieces of a text, in order. -/
def pieces (cs : List Char) : List Piece := Escape.piecesFrom .text [] 0 cs

/-- The pieces put together again are the text. -/
theorem chars_pieces (cs : List Char) : (pieces cs).flatMap Piece.chars = cs :=
  Escape.chars_piecesFrom .text [] 0 cs

end TimingFleet.Text

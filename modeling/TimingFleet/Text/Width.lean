import TimingFleet.Text.EmojiTable
import TimingFleet.Text.Escape

/-!
# Columns a text takes on a terminal

A character takes one column, two if it is wide, none if it extends the one before it.  Some characters
change their width together: a selector makes a picture or a letter of the character before it, pictures
joined by a joiner show as one, and in some scripts two letters are written as one.  A text is measured
from its end, so each character is looked at together with what follows it.  Escape sequences take no
columns, and keep the characters on either side apart.
-/

namespace TimingFleet.Text

namespace Width

/-- What the width of a character can hang on in the text after it. -/
inductive Follower where
  | plain
  /-- A picture. -/
  | picture
  | skinTone
  /-- One letter of a flag. -/
  | flagLetter
  /-- Two or more letters of flags. -/
  | flagLetters
  /-- A joiner, and then a picture. -/
  | joined
  /-- The frame of a key, joined to a picture. -/
  | joinedKey
  /-- One letter of a flag, joined to a picture. -/
  | joinedLetter
  /-- An even number of letters of flags, the last joined to a picture. -/
  | joinedFlag
  /-- An odd number of them above one. -/
  | joinedFlagLetter
  /-- The end of a tag sequence that is joined to a picture: the letters and then the digits read so far. -/
  | joinedTags (letters digits : Nat)
  | arabicAlef
  | hebrewLamed (joined : Bool)
  | bugineseYa (joined : Bool)
  /-- The Buginese vowel sign i, joined to the letter ya. -/
  | bugineseVowel
  | tifinaghConsonant (joined : Bool)
  /-- The Tifinagh consonant joiner, and then a consonant. -/
  | tifinaghJoiner
  | lisuTone
  | orkhonI (joined : Bool)
  /-- A Khmer letter that may be written below another. -/
  | khmerLetter
  deriving DecidableEq, Repr

namespace Follower

/-- A letter that may become one with a letter before it. -/
def isLetter : Follower → Bool
  | .arabicAlef | .hebrewLamed _ | .bugineseYa _ | .bugineseVowel | .tifinaghConsonant _ | .tifinaghJoiner
  | .lisuTone | .orkhonI _ | .khmerLetter => true
  | _ => false

/-- A joiner or an ignored mark before the letter changes nothing; in Arabic, other marks do not. -/
def isLoose (f : Follower) : Bool := f.isLetter && f ≠ .arabicAlef

/-- Something joined to a picture to which a selector may belong. -/
def isJoined : Follower → Bool
  | .joined | .joinedKey => true
  | _ => false

/-- The letter after a joiner. -/
def join : Follower → Follower
  | .hebrewLamed _ => .hebrewLamed true
  | .bugineseYa _ => .bugineseYa true
  | .tifinaghConsonant _ => .tifinaghConsonant true
  | .orkhonI _ => .orkhonI true
  | f => f

end Follower

/-- The text after a character: what it begins with, and the selectors before that. -/
structure Following where
  follower : Follower := .plain
  /-- A selector of the picture form comes first. -/
  asPicture : Bool := false
  /-- A selector of the letter form comes first. -/
  asLetter : Bool := false
  deriving DecidableEq, Repr

namespace Following

/-- After a selector of the picture form. -/
def selectPicture (f : Following) : Following :=
  if f.follower.isLetter || f.follower.isJoined then { f with asPicture := true }
  else ⟨.plain, true, false⟩

/-- After a selector of the letter form. -/
def selectLetter (f : Following) : Following :=
  if f.follower.isLetter then { f with asLetter := true } else ⟨.plain, false, true⟩

/-- The selector of the picture form did not apply. -/
def dropPicture (f : Following) : Following :=
  if !f.asPicture then f else if f.follower.isLetter then { f with asPicture := false } else {}

/-- The selector of the letter form did not apply. -/
def dropLetter (f : Following) : Following :=
  if !f.asLetter then f else if f.follower.isLetter then { f with asLetter := false } else {}

end Following

/-! ## Kinds of characters -/

/-- A letter of a flag. -/
def isFlagLetter (c : Char) : Bool := within [(0x1f1e6, 0x1f1ff)] c

/-- A skin tone. -/
def isSkinTone (c : Char) : Bool := within [(0x1f3fb, 0x1f3ff)] c

/-- A tag that stands for a letter. -/
def isTagLetter (c : Char) : Bool := within [(0xe0061, 0xe007a)] c

/-- A tag that stands for a digit. -/
def isTagDigit (c : Char) : Bool := within [(0xe0030, 0xe0039)] c

/-- The character that joins pictures and letters. -/
def joiner : Char := '\u200d'

/-- A combining mark that is ignored by default. -/
def isIgnoredMark : Char → Bool :=
  within [(0x34f, 0x34f), (0x17b4, 0x17b5), (0x180b, 0x180d), (0x180f, 0x180f), (0xfe00, 0xfe0f),
    (0xe0100, 0xe01ef)]

/-- An Arabic letter of the group of lam. -/
def isLam : Char → Bool :=
  within [(0x644, 0x644), (0x6b5, 0x6b8), (0x76a, 0x76a), (0x8a6, 0x8a6), (0x8c7, 0x8c7)]

/-- An Arabic letter of the group of alef. -/
def isAlef : Char → Bool :=
  within [(0x622, 0x623), (0x625, 0x625), (0x627, 0x627), (0x671, 0x673), (0x675, 0x675),
    (0x773, 0x774), (0x870, 0x882)]

/-- A Khmer letter that may be written below another. -/
def isKhmerLetter : Char → Bool :=
  within [(0x1780, 0x1782), (0x1784, 0x1787), (0x1789, 0x178c), (0x178e, 0x1793), (0x1795, 0x1798),
    (0x179b, 0x179d), (0x17a0, 0x17a0), (0x17a2, 0x17a2), (0x17a7, 0x17a7), (0x17ab, 0x17ac),
    (0x17af, 0x17af)]

/-- A Tifinagh consonant. -/
def isTifinaghConsonant : Char → Bool := within [(0x2d31, 0x2d65), (0x2d6f, 0x2d6f)]

/-- A Lisu tone letter that may be followed by one of the others. -/
def isLisuFirstTone : Char → Bool := within [(0xa4f8, 0xa4fb)]

/-- One of the others. -/
def isLisuSecondTone : Char → Bool := within [(0xa4fc, 0xa4fd)]

/-! ## One character -/

/-- The columns of a character by itself.  Up to `U+00A0` every character takes one. -/
def ofChar (c : Char) : Nat :=
  if c ≤ '\u00a0' then 1
  else if c = '\u17d8' then 3
  else if within zeroRanges c then 0
  else if within wideRanges c then 2
  else 1

/-- What the character is to a character before it. -/
def asFollower (c : Char) : Follower :=
  if c ≤ '\u00a0' then .plain
  else if isFlagLetter c then .flagLetter
  else if isSkinTone c then .skinTone
  else if isAlef c then .arabicAlef
  else if c = '\u05dc' then .hebrewLamed false
  else if c = '\u1a10' then .bugineseYa false
  else if isTifinaghConsonant c then .tifinaghConsonant false
  else if isLisuSecondTone c then .lisuTone
  else if c.toNat = 0x10c03 then .orkhonI false
  else if isKhmerLetter c then .khmerLetter
  else if within pictureRanges c then .picture
  else .plain

/-- A mark over or under an Arabic letter that does not keep it from joining. -/
def isTransparent (c : Char) : Bool := ofChar c = 0 && !within rigidRanges c

/-- How a character before tags that are joined to a picture extends them; a flag is no wider for them. -/
def tagged (letters digits : Nat) (c : Char) : Option Follower :=
  if digits = 0 && letters < 6 && isTagLetter c then some (.joinedTags (letters + 1) 0)
  else if letters < 5 && digits < 3 && isTagDigit c then some (.joinedTags letters (digits + 1))
  else if c.toNat = 0x1f3f4 && (digits = 3 || digits = 0 && 3 ≤ letters) then some .picture
  else none

/-- How a character becomes one with what follows it: the columns it adds, and what it is then to a
character before it. -/
def combined? (c : Char) : Follower → Option (Int × Follower)
  | .arabicAlef =>
    if isLam c then some (0, .plain) else if isTransparent c then some (0, .arabicAlef) else none
  | .hebrewLamed true => if c = '\u05d0' then some (0, .plain) else none
  | .khmerLetter => if c = '\u17d2' then some (-1, .plain) else none
  | .bugineseYa true => if c = '\u1a17' then some (0, .bugineseVowel) else none
  | .bugineseVowel => if c = '\u1a15' then some (0, .plain) else none
  | .tifinaghConsonant joined =>
    if c = '\u2d7f' then some (1, .tifinaghJoiner)
    else if joined && isTifinaghConsonant c then some (0, .plain)
    else none
  | .tifinaghJoiner => if isTifinaghConsonant c then some (-1, .plain) else none
  | .lisuTone => if isLisuFirstTone c then some (0, .plain) else none
  | .orkhonI true => if c.toNat = 0x10c32 then some (0, .plain) else none
  | .skinTone =>
    if within tonedRanges c then some (0, .picture) else if c = joiner then some (0, .joined) else none
  | .flagLetter => if isFlagLetter c then some (1, .flagLetters) else none
  | .flagLetters =>
    if isFlagLetter c then some (1, .flagLetters) else if c = joiner then some (0, .joined) else none
  | .picture => if c = joiner then some (0, .joined) else none
  | .joined =>
    if c = '\u20e3' then some (0, .joinedKey)
    else if isFlagLetter c then some (1, .joinedLetter)
    else if isSkinTone c then some (0, .skinTone)
    else if c.toNat = 0xe007f then some (0, .joinedTags 0 0)
    else if within pictureRanges c then some (0, .picture)
    else none
  | .joinedLetter => if isFlagLetter c then some (-1, .joinedFlag) else none
  | .joinedFlag =>
    if isFlagLetter c then some (3, .joinedFlagLetter) else if c = joiner then some (0, .joined) else none
  | .joinedFlagLetter =>
    if isFlagLetter c then some (-1, .joinedFlag) else if c = joiner then some (0, .joined) else none
  | .joinedTags letters digits => (tagged letters digits c).map fun f => (0, f)
  | _ => none

/-- The columns a character adds to the text after it, and what it then is to a character before it. -/
def add (c : Char) (after : Following) : Int × Following :=
  if after.asPicture && within pictureChoiceRanges c then
    (if after.follower.isJoined then 0 else 2, { follower := .picture })
  else
    let after := after.dropPicture
    if c ≤ '\u00a0' then (1, {})
    else if c = '\ufe0f' then (0, after.selectPicture)
    else if c = '\ufe0e' then (0, after.selectLetter)
    else if after.asLetter && within letterChoiceRanges c then (1, {})
    else
      let after := after.dropLetter
      if after.follower.isLoose && c = joiner then (0, { follower := after.follower.join })
      else if after.follower.isLoose && isIgnoredMark c then (0, after)
      else
        match combined? c after.follower with
        | some (columns, follower) => (columns, { follower })
        | none => (ofChar c, { follower := asFollower c })

/-- The columns of a text, and what it begins with. -/
def measure (cs : List Char) : Int × Following :=
  cs.foldr (fun c (columns, after) => ((add c after).1 + columns, (add c after).2)) (0, {})

/-- The columns of a text without escape sequences. -/
def ofText (cs : List Char) : Nat := (measure cs).1.toNat

end Width

/-- The columns of a text in which escape sequences take none. -/
def width (cs : List Char) : Nat := (((pieces cs).map Piece.text).map Width.ofText).foldr (· + ·) 0

end TimingFleet.Text

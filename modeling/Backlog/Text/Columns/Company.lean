import Backlog.Text
import Backlog.Text.Classes
import Backlog.Text.Columns.Ranges
/-!
What a character's columns depend on: the characters behind it. A text is counted from its end, and
what has been read so far is remembered as a `Company`, into which the next character in front may
merge.

- `charColumns`: the columns of a character that merges with nothing;
- `Company.ofChar`: what such a character is to the one in front of it;
- `Company.join`: what a character adds that merges with its company;
- `Selector`: the marks that choose the form of the character in front of them.
-/
namespace Backlog.Text.Columns
set_option autoImplicit false

/-! ## Classes of characters -/

def joiner : Char := '\u200d'

def isSkinTone (c : Char) : Bool := inRanges [(0x1F3FB, 0x1F3FF)] c

/-- Whether a character is half of a flag. -/
def isIndicator (c : Char) : Bool := inRanges [(0x1F1E6, 0x1F1FF)] c

/-- Whether a character has a form as an emoji that a selector can choose. -/
def isSelectable (c : Char) : Bool := inRanges selectableRanges c

/-- Whether a selector can make an emoji a text of one column. Signs on ideographs stay wide. -/
def isNarrowable (c : Char) : Bool :=
  isSelectable c && inRanges emojiRanges c && !inRanges [(0x1F200, 0x1F2FF)] c

def isCurvedQuote (c : Char) : Bool := inRanges [(0x2018, 0x2019), (0x201C, 0x201D)] c

/-- Marks that no letter notices: invisible ones, and selectors. -/
def isUnnoticed (c : Char) : Bool :=
  inRanges [(0x034F, 0x034F), (0x17B4, 0x17B5), (0x180B, 0x180D), (0x180F, 0x180F),
    (0xFE00, 0xFE0F), (0xE0100, 0xE01EF)] c

/-- Marks that letters join across. -/
def isTransparent (c : Char) : Bool := inRanges zeroRanges c && !inRanges solidRanges c

def isLam (c : Char) : Bool :=
  inRanges [(0x0644, 0x0644), (0x06B5, 0x06B8), (0x076A, 0x076A), (0x08A6, 0x08A6),
    (0x08C7, 0x08C7)] c

def isAlef (c : Char) : Bool :=
  inRanges [(0x0622, 0x0623), (0x0625, 0x0625), (0x0627, 0x0627), (0x0671, 0x0673),
    (0x0675, 0x0675), (0x0773, 0x0774), (0x0870, 0x0882)] c

def isTifinagh (c : Char) : Bool := inRanges [(0x2D31, 0x2D65), (0x2D6F, 0x2D6F)] c

/-- Khmer letters that have a form below the line. -/
def isSubscriptable (c : Char) : Bool :=
  inRanges [(0x1780, 0x1782), (0x1784, 0x1787), (0x1789, 0x178C), (0x178E, 0x1793),
    (0x1795, 0x1798), (0x179B, 0x179D), (0x17A0, 0x17A0), (0x17A2, 0x17A2), (0x17A7, 0x17A7),
    (0x17AB, 0x17AC), (0x17AF, 0x17AF)] c

/-- The columns of a character that merges with nothing. One Khmer sign is drawn as three letters.
-/
def charColumns (c : Char) : Nat :=
  if c.toNat ≤ 0xA0 then 1
  else if c = '\u17d8' then 3
  else if inRanges zeroRanges c then 0
  else if inRanges wideRanges c then 2
  else 1

/-! ## Selectors -/

/-- What a selector makes of the character in front of it. -/
inductive Selector where
  | emoji
  | text
  | wide
  deriving DecidableEq, Repr

def Selector.ofChar? (c : Char) : Option Selector :=
  if c = '\ufe0f' then some .emoji
  else if c = '\ufe0e' then some .text
  else if c = '\ufe01' then some .wide
  else none

/-! ## Company -/

/-- A letter that letters in front of it may merge into. -/
inductive Letter where
  | alef
  | lamed
  | ya
  | yaWithVowel
  | consonant
  /-- A consonant with the sign that joins it to another. -/
  | joinedConsonant
  | toneEnd
  | orkhonVowel
  | subscriptable
  deriving DecidableEq, Repr

/-- What stands behind a character, as far as the character can merge with it. -/
inductive Company where
  | nothing
  | lineFeed
  /-- A letter; the flag tells whether a joiner stands before it. -/
  | letter (kind : Letter) (joined : Bool)
  | vowelE
  | vowelAi
  | emoji
  | skinTone
  | indicator
  | indicators
  | joinedEmoji
  | joinedKeycap
  | joinedIndicator
  /-- An emoji, a joiner, and whole flags. -/
  | joinedEven
  /-- An emoji, a joiner, and whole flags and a half. -/
  | joinedOdd
  /-- A joined emoji, the mark that ends a flag of a region, and letters of its name. -/
  | tagLetters (count : Nat)
  | tagDigits (count : Nat)
  deriving DecidableEq, Repr

namespace Company

/-- What a character that merges with nothing is to the one in front of it. -/
def ofChar (c : Char) : Company :=
  if c = '\n' then .lineFeed
  else if c.toNat ≤ 0xA0 then .nothing
  else if c = '\u05dc' then .letter .lamed false
  else if isAlef c then .letter .alef false
  else if isSubscriptable c then .letter .subscriptable false
  else if c = '\u1a10' then .letter .ya false
  else if isTifinagh c then .letter .consonant false
  else if c = '\ua4fc' || c = '\ua4fd' then .letter .toneEnd false
  else if c.toNat = 0x10C03 then .letter .orkhonVowel false
  else if c.toNat = 0x16D67 then .vowelE
  else if c.toNat = 0x16D68 then .vowelAi
  else if isIndicator c then .indicator
  else if isSkinTone c then .skinTone
  else if inRanges emojiRanges c then .emoji
  else .nothing

/-- The company that is left when a character chosen by a selector does not stand in front of it:
a selector hides all but letters. -/
def withoutSelector : Company → Company
  | .letter kind joined => .letter kind joined
  | _ => .nothing

def withSelector (s : Selector) : Company → Company
  | .letter kind joined => .letter kind joined
  | .joinedEmoji => if s = .emoji then .joinedEmoji else .nothing
  | .joinedKeycap => if s = .emoji then .joinedKeycap else .nothing
  | _ => .nothing

/-- Whether an emoji in front becomes one with the company. -/
def isJoined : Company → Bool
  | .joinedEmoji | .joinedKeycap => true
  | _ => false

end Company

/-- What a character adds that merges into a letter, and what the two are together. -/
def Letter.merge (kind : Letter) (joined : Bool) (c : Char) : Option (Int × Company) :=
  match kind with
  | .alef =>
    if isLam c then some (0, .nothing)
    else if isTransparent c then some (0, .letter .alef false)
    else none
  | .lamed => if joined && c = '\u05d0' then some (0, .nothing) else none
  | .subscriptable => if c = '\u17d2' then some (-1, .nothing) else none
  | .ya => if joined && c = '\u1a17' then some (0, .letter .yaWithVowel false) else none
  | .yaWithVowel => if c = '\u1a15' then some (0, .nothing) else none
  | .consonant =>
    if c = '\u2d7f' then some (1, .letter .joinedConsonant false)
    else if joined && isTifinagh c then some (0, .nothing)
    else none
  | .joinedConsonant => if isTifinagh c then some (-1, .nothing) else none
  | .toneEnd => if inRanges [(0xA4F8, 0xA4FB)] c then some (0, .nothing) else none
  | .orkhonVowel => if joined && c.toNat = 0x10C32 then some (0, .nothing) else none

/-- Whether a character is a letter or a digit in the name of a flag's region. -/
def isTagLetter (c : Char) : Bool := inRanges [(0xE0061, 0xE007A)] c

def isTagDigit (c : Char) : Bool := inRanges [(0xE0030, 0xE0039)] c

def blackFlag : Char := '🏴'

/-- What a character adds that merges with its company, and what they are together. -/
def Company.join (company : Company) (c : Char) : Option (Int × Company) :=
  match company with
  | .nothing | .lineFeed => none
  | .letter kind joined =>
    if kind ≠ .alef ∧ c = joiner then some (0, .letter kind true)
    else if kind ≠ .alef ∧ isUnnoticed c then some (0, .letter kind joined)
    else kind.merge joined c
  | .vowelE =>
    if c.toNat = 0x16D63 || c.toNat = 0x16D69 then some (0, .nothing)
    else if c.toNat = 0x16D67 then some (0, .vowelAi)
    else if c.toNat = 0x16D68 then some (1, .vowelE)
    else none
  | .vowelAi => if c.toNat = 0x16D63 then some (0, .nothing) else none
  | .emoji => if c = joiner then some (0, .joinedEmoji) else none
  | .skinTone =>
    if inRanges toneBaseRanges c then some (0, .emoji)
    else if c = joiner then some (0, .joinedEmoji)
    else none
  | .indicator => if isIndicator c then some (1, .indicators) else none
  | .indicators =>
    if isIndicator c then some (1, .indicators)
    else if c = joiner then some (0, .joinedEmoji)
    else none
  | .joinedEmoji =>
    if c = '\u20e3' then some (0, .joinedKeycap)
    else if isIndicator c then some (1, .joinedIndicator)
    else if isSkinTone c then some (0, .skinTone)
    else if c.toNat = 0xE007F then some (0, .tagLetters 0)
    else if inRanges emojiRanges c then some (0, .emoji)
    else none
  | .joinedKeycap => none
  | .joinedIndicator => if isIndicator c then some (-1, .joinedEven) else none
  | .joinedEven =>
    if isIndicator c then some (3, .joinedOdd)
    else if c = joiner then some (0, .joinedEmoji)
    else none
  | .joinedOdd =>
    if isIndicator c then some (-1, .joinedEven)
    else if c = joiner then some (0, .joinedEmoji)
    else none
  | .tagLetters n =>
    if isTagLetter c && n < 6 then some (0, .tagLetters (n + 1))
    else if isTagDigit c && n < 5 then some (0, .tagDigits 1)
    else if c = blackFlag && 3 ≤ n then some (0, .emoji)
    else none
  | .tagDigits n =>
    if isTagDigit c && n < 3 then some (0, .tagDigits (n + 1))
    else if c = blackFlag && n = 3 then some (0, .emoji)
    else none

end Backlog.Text.Columns

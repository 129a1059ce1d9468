import Backlog.Http.Domain.Classes.Table
import Backlog.Http.Domain.Composition
import Backlog.Http.Domain.Direction.Table
import Backlog.Text.Classes
/-!
What a label of a name may hold.

- `isAllowed`: no foreign character, no mark at its start, joiners only where they show;
- `Direction.fits`: letters of both directions do not mix.
-/
namespace Backlog.Http.Domain
set_option autoImplicit false

/-! ## Characters -/

def isForeign (c : Char) : Bool := inRanges foreignRanges c

def isMark (c : Char) : Bool := inRanges markRanges c

def isBetweenLetters (c : Char) : Bool :=
  inRanges Direction.nonspacingRanges c ||
    [0x0CBF, 0x0CC6, 0x11A07, 0x11A08, 0x11C3F, 0x1E94B].contains c.toNat

def joinsBehind (c : Char) : Bool := inRanges joinsBehindRanges c || inRanges joinsBothRanges c

def joinsBefore (c : Char) : Bool := inRanges joinsBeforeRanges c || inRanges joinsBothRanges c

/-! ## Joiners -/

def joiner : Char := '\u200d'

def nonJoiner : Char := '\u200c'

/-- Whether the next letter, across what stands between letters, is of a class. -/
def nextLetter (p : Char → Bool) (t : Text) : Bool := (t.dropWhile isBetweenLetters).head?.any p

/-- Whether a joiner or non-joiner shows where it stands, between the characters before it, last
first, and those behind it: a letter has lost its vowel, or two letters would join. -/
def joinerFits (before : Text) (c : Char) (behind : Text) : Bool :=
  before.head?.any (fun d => Composition.rank d == Composition.vowelKiller) ||
    (c == nonJoiner && nextLetter joinsBehind before && nextLetter joinsBefore behind)

def joinersFit : Text → Text → Bool
  | _, [] => true
  | before, c :: behind =>
    (!(c == joiner || c == nonJoiner) || joinerFits before c behind) && joinersFit (c :: before) behind

def isAllowed (label : Text) : Bool :=
  !label.any isForeign && !label.head?.any isMark && joinersFit [] label

/-! ## Directions -/

/-- How a character is written, as far as directions may clash. -/
inductive Direction where
  | left
  | right
  | arabicDigit
  | numeral
  | neutral
  | nonspacing
  deriving DecidableEq, Repr

namespace Direction

def ofChar (c : Char) : Direction :=
  if inRanges rightRanges c then .right
  else if inRanges arabicDigitRanges c then .arabicDigit
  else if inRanges numeralRanges c then .numeral
  else if inRanges neutralRanges c then .neutral
  else if inRanges nonspacingRanges c then .nonspacing
  else .left

/-- Whether a label holds anything that is written from right to left. -/
def turns (label : Text) : Bool :=
  label.any fun c => ofChar c == .right || ofChar c == .arabicDigit

/-- The last direction of a label that is not that of a mark. -/
def ending? (directions : List Direction) : Option Direction :=
  (directions.reverse.dropWhile (· == .nonspacing)).head?

/-- Whether a label can stand in a name in which some label turns: it starts with a letter, holds
letters of one direction only, ends with a letter or a digit, and has digits of one kind. -/
def fits (label : Text) : Bool :=
  let directions := label.map ofChar
  match directions with
  | [] => true
  | .right :: _ =>
    !directions.contains .left &&
      (ending? directions).any (fun d => d == .right || d == .numeral || d == .arabicDigit) &&
      !(directions.contains .numeral && directions.contains .arabicDigit)
  | .left :: _ =>
    !directions.contains .right && !directions.contains .arabicDigit &&
      (ending? directions).any (fun d => d == .left || d == .numeral)
  | _ => false

end Direction

end Backlog.Http.Domain

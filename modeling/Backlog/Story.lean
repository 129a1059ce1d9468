import Backlog.Section
/-!
A user story as its document declares it: the header fields as written, and the text stored for
each section.

- `Story.setSection`: storing an empty text leaves the section absent;
- `Story.hasSection`: whether a section has something to show;
- `Story.declaredSprint`: the first number in the sprint field.
-/
namespace Backlog
set_option autoImplicit false

structure Story where
  id : Text
  title : Text
  status : Text
  category : Text
  effort : Text
  sprint : Text
  /-- The text stored for a section, if one is stored. -/
  sections : Section → Option Text

namespace Story

/-! ## Defaults -/

def unknownTitle : Text := "Unknown Title"

def defaultStatus : Text := "❌ Not Started"

/-- The category, effort or sprint of a document that declares none. -/
def unknown : Text := "Unknown"

/-- A story of which nothing but the identifier is known. -/
def blank (id : Text) : Story where
  id := id
  title := unknownTitle
  status := defaultStatus
  category := unknown
  effort := unknown
  sprint := unknown
  sections := fun _ => none

/-! ## Sections -/

/-- The text of a section, empty when none is stored. -/
def text (story : Story) (s : Section) : Text := (story.sections s).getD []

/-- Whether the section has a text to show. -/
def hasSection (story : Story) (s : Section) : Bool := !(story.text s).isEmpty

/-- The sections with a text to show, in order. -/
def shown (story : Story) : List Section := Section.all.filter story.hasSection

/-- The sections with a stored text, in order. A stored text may be empty. -/
def stored (story : Story) : List Section := Section.all.filter fun s => (story.sections s).isSome

/-- The story with a section's text replaced, or removed when the new text is empty. -/
def setSection (story : Story) (s : Section) (t : Text) : Story :=
  { story with sections := fun other =>
      if other = s then (if t.isEmpty then none else some t) else story.sections other }

theorem text_set_same (story : Story) (s : Section) (t : Text) :
    (story.setSection s t).text s = t := by
  cases t <;> simp [setSection, text]

theorem text_set_other (story : Story) {s other : Section} (t : Text) (h : other ≠ s) :
    (story.setSection s t).text other = story.text other := by
  simp [setSection, text, h]

/-! ## Sprint -/

/-- The first run of decimal digits in a text. -/
def firstDigits (t : Text) : Text :=
  (t.dropWhile fun c => !c.isDigit).takeWhile Char.isDigit

/-- The first number in the sprint field. There is none without a digit, nor when the first run of
digits is beyond 32 bits. -/
def declaredSprint (story : Story) : Option UInt32 :=
  match firstDigits story.sprint with
  | [] => none
  | d :: ds => word32? (Text.ofDigits (d :: ds))

end Story

end Backlog

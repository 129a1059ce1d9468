import Backlog.Text.Classes
import Backlog.Story
/-!
Reading a story document. Reading never fails: a field that is missing or blank keeps its default,
and a section that is missing or blank stays absent.

- `Document.titleOf?`: the title line, `# <letters>-<digits>: <title>`;
- `Document.fieldOf?`: a header field, `**<Label>**: <value>`, wherever it stands;
- `Document.sectionOf`: the text below a section's heading, up to the next heading of level two;
- `Document.read`: the story of a document.
-/
namespace Backlog.Document
set_option autoImplicit false

/-! ## Header -/

def restOfLine (t : Text) : Text := t.takeWhile (· != '\n')

/-- A value as it stands on its line: blanks at its end do not count, and a blank value is none. -/
def value? (line : Text) : Option Text :=
  match Text.trimEnd isBlank line with
  | [] => none
  | c :: cs => some (c :: cs)

def fieldMark (label : Text) : Text := "**" ++ label ++ "**: "

/-- What follows the first mark that has something behind it on its line, to the end of that line.
-/
def marked? (mark : Text) : Text → Option Text
  | [] => none
  | c :: cs =>
    match Text.after? mark (c :: cs) with
    | some rest =>
      match restOfLine rest with
      | [] => marked? mark cs
      | v :: vs => some (v :: vs)
    | none => marked? mark cs

/-- The value of a header field. Only the first mark with something behind it counts. -/
def fieldOf? (label content : Text) : Option Text :=
  (marked? (fieldMark label) content).bind value?

/-- Whether a character is one of the letters of a title line's identifier. -/
def isLetter (c : Char) : Bool := c.isAlpha

def afterRun? (p : Char → Bool) : Text → Option Text
  | [] => none
  | c :: cs => if p c then some (cs.dropWhile p) else none

/-- The title that a text gives when it starts with a title line. -/
def titleHere? (t : Text) : Option Text := do
  let t ← Text.after? "# " t
  let t ← afterRun? isLetter t
  let t ← Text.after? "-" t
  let t ← afterRun? isDecimalDigit t
  let t ← Text.after? ": " t
  match restOfLine t with
  | [] => none
  | c :: cs => some (c :: cs)

/-- The first answer of `here?` at a place where a line starts. -/
def firstAtLine? {α : Type} (here? : Text → Option α) : Bool → Text → Option α
  | _, [] => none
  | true, c :: cs =>
    match here? (c :: cs) with
    | some a => some a
    | none => firstAtLine? here? (c == '\n') cs
  | false, c :: cs => firstAtLine? here? (c == '\n') cs

/-- The title of a document. Only the first title line counts. -/
def titleOf? (content : Text) : Option Text :=
  (firstAtLine? titleHere? true content).bind value?

/-! ## Sections -/

def headingMark : Text := "## "

def afterLastBreak? (t : Text) : Option Text :=
  if t.contains '\n' then some (t.reverse.takeWhile (· != '\n')).reverse else none

/-- What follows the heading line that a text starts with. The blanks behind the heading are skipped
to the end of the text, or as far as a line starts among them; where neither can be, the line is no
heading line. -/
def afterHeading? (heading t : Text) : Option Text := do
  let t ← Text.after? (headingMark ++ heading) t
  let blanks := t.takeWhile isBlank
  match t.dropWhile isBlank with
  | [] => some []
  | c :: cs =>
    let kept ← afterLastBreak? blanks
    return kept ++ c :: cs

def beforeHeading (t : Text) : Text :=
  if Text.startsWith headingMark t then [] else Text.upTo ('\n' :: headingMark) t

/-- The text of a section, without blanks at its ends; empty when no line is its heading. -/
def sectionOf (s : Section) (content : Text) : Text :=
  match firstAtLine? (afterHeading? s.heading) true content with
  | none => []
  | some rest => Text.trim isBlank (beforeHeading rest)

/-! ## Documents -/

/-- The header fields of a document, without its sections. -/
def header (id content : Text) : Story :=
  { Story.blank id with
    title := (titleOf? content).getD Story.unknownTitle
    status := (fieldOf? "Status" content).getD Story.defaultStatus
    category := (fieldOf? "Category" content).getD Story.unknown
    effort := (fieldOf? "Effort" content).getD Story.unknown
    sprint := (fieldOf? "Sprint" content).getD Story.unknown }

/-- The story of a document. The identifier comes from elsewhere. -/
def read (id content : Text) : Story :=
  Section.all.foldl (fun story s => story.setSection s (sectionOf s content)) (header id content)

end Backlog.Document

import Mathlib.Data.List.Induction
import Backlog.Proofs.Preamble
/-!
Documents whose lines end in a carriage return and a line feed. A carriage return is a blank, so no
section is lost or gained by it. It is a character too, so a header field that a line leaves open is
taken to be there and blank.

- `Text.crlf`: a text with a carriage return in front of every line feed;
- `Document.sections_crlf`: the sections of a document, and those with the other line ends;
- `HeaderField.LeftOpen`: a line ends where the value of a field would start;
- `Document.header_crlf`: the header fields with the other line ends.
-/
namespace Backlog
set_option autoImplicit false

/-! ## Line ends -/

namespace Text

def crlf (t : Text) : Text := t.flatMap fun c => if c = '\n' then ['\r', '\n'] else [c]

/-- Lines with a carriage return at the end of each but the last. -/
def returned : List Text → List Text
  | [] => []
  | [l] => [l]
  | l :: second :: ls => (l ++ ['\r']) :: returned (second :: ls)

theorem crlf_append (t u : Text) : crlf (t ++ u) = crlf t ++ crlf u := List.flatMap_append

theorem crlf_cons {c : Char} (h : c ≠ '\n') (t : Text) : crlf (c :: t) = c :: crlf t := by
  unfold crlf
  rw [List.flatMap_cons, if_neg h]
  rfl

theorem crlf_feed (t : Text) : crlf ('\n' :: t) = '\r' :: '\n' :: crlf t := rfl

theorem crlf_line {l : Text} (h : '\n' ∉ l) : crlf l = l := by
  induction l with
  | nil => rfl
  | cons c l ih =>
    obtain ⟨hc, hl⟩ := not_or.1 (mt List.mem_cons.2 h)
    rw [crlf_cons (Ne.symm hc), ih hl]

theorem crlf_more {l : Text} (h : '\n' ∉ l) (t : Text) :
    crlf (l ++ '\n' :: t) = (l ++ ['\r']) ++ '\n' :: crlf t := by
  rw [crlf_append, crlf_line h, crlf_feed]
  simp

theorem returned_no_break {l : Text} (h : '\n' ∉ l) : '\n' ∉ l ++ ['\r'] := by simp [h]

theorem returned_cons (l : Text) {ls : List Text} (h : ls ≠ []) :
    returned (l :: ls) = (l ++ ['\r']) :: returned ls := by
  obtain ⟨second, ls, rfl⟩ := List.exists_cons_of_ne_nil h
  rfl

theorem lines_crlf (t : Text) : lines (crlf t) = returned (lines t) := by
  induction t using by_lines with
  | last l hl =>
    rw [crlf_line hl, lines_last hl]
    rfl
  | more l t hl ih =>
    rw [crlf_more hl, lines_more (returned_no_break hl), ih, lines_more hl,
      returned_cons l (lines_ne_nil t)]

/-! ## Blanks -/

theorem return_blank : ∀ c ∈ ['\r'], isBlank c = true := by
  intro c hc
  rw [List.mem_singleton.1 hc]
  decide

theorem blank_crlf {b : Text} (h : ∀ c ∈ b, isBlank c = true) :
    ∀ c ∈ crlf b, isBlank c = true := by
  intro c hc
  obtain ⟨d, hd, m⟩ := List.mem_flatMap.1 hc
  by_cases fed : d = '\n'
  · rw [if_pos fed] at m
    rcases List.mem_cons.1 m with rfl | m
    · exact return_blank _ List.mem_cons_self
    · rw [List.mem_singleton.1 m]
      exact is_blank_line_feed
  · rw [if_neg fed, List.mem_singleton] at m
    exact m ▸ h d hd

theorem ink_not_line_feed {c : Char} (h : isBlank c = false) : c ≠ '\n' := by
  rintro rfl
  exact Bool.noConfusion (h.symm.trans is_blank_line_feed)

theorem trimStart_crlf (t : Text) :
    trimStart isBlank (crlf t) = crlf (trimStart isBlank t) := by
  induction t with
  | nil => rfl
  | cons c t ih =>
    cases hc : isBlank c with
    | true =>
      have blank : ∀ d ∈ crlf [c], isBlank d = true := blank_crlf (by simpa using hc)
      have kept : trimStart isBlank (c :: t) = trimStart isBlank t := List.dropWhile_cons_of_pos hc
      rw [← List.singleton_append, crlf_append, trimStart_append blank, ih, List.singleton_append,
        kept]
    | false =>
      have stop (u : Text) : trimStart isBlank (c :: u) = c :: u :=
        List.dropWhile_cons_of_neg (by simp [hc])
      rw [stop, crlf_cons (ink_not_line_feed hc), stop]

theorem trimEnd_crlf (t : Text) : trimEnd isBlank (crlf t) = crlf (trimEnd isBlank t) := by
  induction t using List.reverseRecOn with
  | nil => rfl
  | append_singleton t c ih =>
    cases hc : isBlank c with
    | true =>
      have last : ∀ d ∈ [c], isBlank d = true := by simpa using hc
      rw [crlf_append, trimEnd_append (blank_crlf last), ih, trimEnd_append last]
    | false =>
      have stop (u : Text) : trimEnd isBlank (u ++ [c]) = u ++ [c] := by
        simp [trimEnd, hc]
      have own : crlf [c] = [c] := crlf_cons (ink_not_line_feed hc) []
      rw [crlf_append, own, stop, stop, crlf_append, own]

theorem trim_crlf (t : Text) : trim isBlank (crlf t) = crlf (trim isBlank t) := by
  unfold trim
  rw [trimStart_crlf, trimEnd_crlf]

end Text

/-! ## Sections -/

namespace Document

theorem heading_returned {s : Section} {l : Text} :
    IsHeadingOf s (l ++ ['\r']) ↔ IsHeadingOf s l := by
  by_cases front : headingMark ++ s.heading <+: l
  · obtain ⟨rest, rfl⟩ := front
    have blank : isBlankLine (rest ++ ['\r']) = isBlankLine rest := by
      have last : isBlank '\r' = true := Text.return_blank _ List.mem_cons_self
      simp [isBlankLine, last]
    rw [List.append_assoc, heading_behind_iff, heading_behind_iff, blank]
  · have own : '\r' ∉ headingMark ++ s.heading := by cases s <;> decide
    have far : ¬ headingMark ++ s.heading <+: l ++ ['\r'] := by
      intro p
      exact front ((Text.prefix_up_to own l []).1 p)
    exact iff_of_false (no_heading_front far) (no_heading_front front)

theorem level_two_returned (l : Text) : isLevelTwo (l ++ ['\r']) = isLevelTwo l := by
  have own : '\r' ∉ headingMark := by decide
  rw [Bool.eq_iff_iff]
  unfold isLevelTwo
  rw [Text.startsWith_iff, Text.startsWith_iff]
  exact Text.prefix_up_to own l []

theorem below_returned (s : Section) (ls : List Text) :
    below? s (Text.returned ls) = (below? s ls).map Text.returned := by
  induction ls with
  | nil => rfl
  | cons l ls ih =>
    by_cases last : ls = []
    · subst last
      change below? s [l] = (below? s [l]).map Text.returned
      rw [below?]
      by_cases h : IsHeadingOf s l
      · rw [if_pos h]
        rfl
      · rw [if_neg h]
        rfl
    · rw [Text.returned_cons l last, below?, below?]
      by_cases h : IsHeadingOf s l
      · rw [if_pos h, if_pos (heading_returned.2 h)]
        rfl
      · rw [if_neg h, if_neg (mt heading_returned.1 h), ih]

/-- Up to a heading of level two, lines with carriage returns are lines with the other line ends.
What is left over at the end is at most a carriage return. -/
theorem flat_returned {ls : List Text} (no_break : ∀ l ∈ ls, '\n' ∉ l) :
    ∃ tail : Text, (∀ c ∈ tail, isBlank c = true) ∧
      '\r' :: ((Text.returned ls).takeWhile fun l => !isLevelTwo l).flatMap (fun l => '\n' :: l) =
        Text.crlf ((ls.takeWhile fun l => !isLevelTwo l).flatMap fun l => '\n' :: l) ++ tail := by
  induction ls with
  | nil => exact ⟨['\r'], Text.return_blank, rfl⟩
  | cons l ls ih =>
    obtain ⟨hl, hls⟩ := List.forall_mem_cons.1 no_break
    have led : Text.crlf ('\n' :: l) = '\r' :: '\n' :: l := by
      rw [Text.crlf_feed, Text.crlf_line hl]
    by_cases last : ls = []
    · subst last
      cases two : isLevelTwo l with
      | true => exact ⟨['\r'], Text.return_blank, by simp [Text.returned, two, Text.crlf]⟩
      | false =>
        exact ⟨[], by simp, by simp [Text.returned, two, led]⟩
    · rw [Text.returned_cons l last]
      cases two : isLevelTwo l with
      | true =>
        have stop := (level_two_returned l).trans two
        exact ⟨['\r'], Text.return_blank, by simp [stop, two, Text.crlf]⟩
      | false =>
        have go := (level_two_returned l).trans two
        obtain ⟨tail, blank, same⟩ := ih hls
        refine ⟨tail, blank, ?_⟩
        rw [List.takeWhile_cons_of_pos (by simp [go]), List.takeWhile_cons_of_pos (by simp [two]),
          List.flatMap_cons, List.flatMap_cons, Text.crlf_append, led, List.append_assoc, ← same]
        simp

/-- For the trimmed text it does not matter whether the first line has a line feed in front. -/
theorem trim_led {b : Text} (h : ∀ c ∈ b, isBlank c = true) (ls : List Text) :
    Text.trim isBlank (b ++ ls.flatMap fun l => '\n' :: l) =
      Text.trim isBlank (Text.join "\n" ls) := by
  rw [Text.trim_append_left h]
  cases ls with
  | nil => rfl
  | cons l ls =>
    rw [Text.join_cons, List.flatMap_cons, List.cons_append, ← List.singleton_append,
      Text.trim_append_left line_feed_blank]

theorem section_crlf (s : Section) (content : Text) :
    sectionOf s (Text.crlf content) = Text.crlf (sectionOf s content) := by
  rw [section_of_lines, section_of_lines, sectionLines, sectionLines, Text.lines_crlf,
    below_returned]
  cases found : below? s (Text.lines content) with
  | none => rfl
  | some below =>
    have no_break : ∀ l ∈ below, '\n' ∉ l := by
      intro l m
      exact Text.no_break_of_mem_lines content l ((below_suffix found).subset m)
    obtain ⟨tail, blank, same⟩ := flat_returned no_break
    have nothing : ∀ c ∈ ([] : Text), isBlank c = true := by simp
    rw [Option.map_some, Option.getD_some, Option.getD_some, ← trim_led Text.return_blank,
      List.singleton_append, same, Text.trim_append_right blank, Text.trim_crlf]
    have led := trim_led nothing (below.takeWhile fun l => !isLevelTwo l)
    rw [List.nil_append] at led
    rw [led]

theorem crlf_isEmpty (t : Text) : (Text.crlf t).isEmpty = t.isEmpty := by
  cases t with
  | nil => rfl
  | cons c t =>
    by_cases h : c = '\n'
    · subst h
      rfl
    · rw [Text.crlf_cons h]
      rfl

/-- A document with carriage returns stores the same sections as without, and the text of each has
them in front of its line feeds. -/
theorem sections_crlf (id content : Text) :
    (read id (Text.crlf content)).stored = (read id content).stored ∧
      ∀ s : Section,
        (read id (Text.crlf content)).sections s = ((read id content).sections s).map Text.crlf := by
  have texts (s : Section) :
      (read id (Text.crlf content)).sections s = ((read id content).sections s).map Text.crlf := by
    rw [sections_read, sections_read, section_crlf, crlf_isEmpty]
    cases (sectionOf s content).isEmpty with
    | true => rfl
    | false => rfl
  refine ⟨?_, texts⟩
  unfold Story.stored
  refine List.filter_congr fun s _ => ?_
  rw [texts, Option.isSome_map]

/-! ## Marks and titles at the end of a line -/

/-- A mark in front of a line gives all that is behind it. -/
theorem marked_front (mark : Text) {rest : Text} (h : '\n' ∉ rest) (more : rest ≠ []) :
    marked? mark (mark ++ rest) = some rest := by
  obtain ⟨c, cs, rfl⟩ := List.exists_cons_of_ne_nil more
  have other : c ≠ '\n' := by
    rintro rfl
    exact h List.mem_cons_self
  have here : MarkedAt mark (mark ++ c :: cs) 0 := ⟨c, cs, rfl, other⟩
  have first : ∀ earlier < 0, ¬ MarkedAt mark (mark ++ c :: cs) earlier := by simp
  rw [marked_first here first, Nat.zero_add, List.drop_left, rest_of_line_all h]

theorem marked_short {mark l : Text} (h : l.length ≤ mark.length) : marked? mark l = none := by
  rw [marked_none_iff]
  rintro place ⟨c, rest, e, -⟩
  have long := congrArg List.length e
  rw [List.length_drop, List.length_append, List.length_cons] at long
  omega

theorem prefix_of_marked_returned {mark l : Text} (h : MarkedAt mark (l ++ ['\r']) 0) :
    mark <+: l := by
  obtain ⟨c, -, p⟩ := marked_front_iff.1 h
  rcases List.prefix_concat_iff.1 p with e | p
  · obtain rfl := List.append_inj_left' e rfl
    exact List.prefix_rfl
  · exact (List.prefix_append mark [c]).trans p

/-- In front of a carriage return a mark gives what it gives without, or the empty text behind it at
the end of the line. -/
theorem marked_returned {mark l : Text} (hl : '\n' ∉ l) :
    marked? mark (l ++ ['\r']) =
      ((marked? mark l).or (if mark <:+ l then some [] else none)).map (· ++ ['\r']) := by
  induction l with
  | nil =>
    cases mark with
    | nil => rfl
    | cons m mark =>
      have not_suffix : ¬ m :: mark <:+ [] := by simp
      rw [List.nil_append, marked_short (by simp), if_neg not_suffix]
      rfl
  | cons c l ih =>
    by_cases front : mark <+: c :: l
    · obtain ⟨rest, whole⟩ := front
      rw [← whole] at hl ⊢
      have line : '\n' ∉ rest := mt (List.mem_append_right mark) hl
      have returned := marked_front mark (Text.returned_no_break line) (by simp)
      rw [List.append_assoc, returned]
      by_cases nothing : rest = []
      · rw [nothing, List.append_nil, marked_short (le_refl _), if_pos List.suffix_rfl]
        rfl
      · rw [marked_front mark line nothing]
        rfl
    -- The mark is not in front, so it is looked for from the next character on.
    · have there := mt prefix_of_marked_returned front
      have here : ¬ MarkedAt mark (c :: l) 0 := by
        intro m
        obtain ⟨d, -, p⟩ := marked_front_iff.1 m
        exact front ((List.prefix_append mark [d]).trans p)
      have inner : mark <:+ c :: l ↔ mark <:+ l := by
        rw [List.suffix_cons_iff]
        refine or_iff_right ?_
        rintro rfl
        exact front List.prefix_rfl
      rw [List.cons_append] at there ⊢
      rw [marked_later there, marked_later here, ih (List.not_mem_of_not_mem_cons hl)]
      simp only [inner]

end Document

namespace HeaderField

open Document

/-- A line ends where the value of the field would start. -/
def OpenOn (f : HeaderField) (line : Text) : Prop :=
  match f.label? with
  | none => ∃ letters digits : Text, IsTitleId letters digits ∧ line = titleMark letters digits
  | some label => fieldMark label <:+ line

/-- A line that is not the last one ends where the value of the field would start, and up to there no
place gives the field. -/
def LeftOpen (f : HeaderField) (content : Text) : Prop :=
  ∃ (before : List Text) (line : Text) (after : List Text),
    Text.lines content = before ++ line :: after ∧ after ≠ [] ∧ f.OpenOn line ∧
      ∀ l ∈ before ++ [line], ¬ f.DeclaredIn l

theorem capture_of_title {f : HeaderField} (h : f.label? = none) {l v : Text} (hl : '\n' ∉ l) :
    f.capture? l = some v ↔ IsTitleLine l v := by
  have alone : f.capture? l = titleHere? l := by
    rw [capture?, h]
    exact first_at_line_last hl rfl
  rw [alone, title_line_iff hl]

theorem capture_of_mark {f : HeaderField} {label : Text} (h : f.label? = some label)
    (content : Text) : f.capture? content = marked? (fieldMark label) content := by
  rw [capture?, h]

theorem capture_returned {f : HeaderField} {l v : Text} (hl : '\n' ∉ l)
    (found : f.capture? l = some v) : f.capture? (l ++ ['\r']) = some (v ++ ['\r']) := by
  cases h : f.label? with
  | none =>
    obtain ⟨letters, digits, id, rfl, -⟩ := (capture_of_title h hl).1 found
    rw [capture_of_title h (Text.returned_no_break hl)]
    exact ⟨letters, digits, id, List.append_assoc .., by simp⟩
  | some label =>
    rw [capture_of_mark h] at found ⊢
    rw [marked_returned hl, found]
    rfl

theorem capture_open {f : HeaderField} {l : Text} (hl : '\n' ∉ l) (missing : f.capture? l = none)
    (open_on : f.OpenOn l) : f.capture? (l ++ ['\r']) = some ['\r'] := by
  unfold OpenOn at open_on
  cases h : f.label? with
  | none =>
    rw [h] at open_on
    obtain ⟨letters, digits, id, rfl⟩ := open_on
    rw [capture_of_title h (Text.returned_no_break hl)]
    exact ⟨letters, digits, id, rfl, by simp⟩
  | some label =>
    rw [h] at open_on
    rw [capture_of_mark h] at missing ⊢
    rw [marked_returned hl, missing, if_pos open_on]
    rfl

theorem capture_closed {f : HeaderField} {l : Text} (hl : '\n' ∉ l) (missing : f.capture? l = none)
    (closed : ¬ f.OpenOn l) : f.capture? (l ++ ['\r']) = none := by
  unfold OpenOn at closed
  cases h : f.label? with
  | none =>
    rw [h] at closed
    rw [Option.eq_none_iff_forall_ne_some]
    intro title found
    obtain ⟨letters, digits, id, e, inked⟩ :=
      (capture_of_title h (Text.returned_no_break hl)).1 found
    obtain ⟨front, last, rfl⟩ := (List.eq_nil_or_concat' title).resolve_left inked
    rw [← List.append_assoc] at e
    have line : l = titleMark letters digits ++ front := List.append_inj_left' e rfl
    by_cases empty : front = []
    · rw [empty, List.append_nil] at line
      exact closed ⟨letters, digits, id, line⟩
    · have given := (capture_of_title h hl).2 ⟨letters, digits, id, line, empty⟩
      rw [missing] at given
      exact absurd given (by simp)
  | some label =>
    rw [h] at closed
    rw [capture_of_mark h] at missing ⊢
    rw [marked_returned hl, missing, if_neg closed]
    rfl

theorem left_open_more {f : HeaderField} {l : Text} (hl : '\n' ∉ l) (t : Text) :
    f.LeftOpen (l ++ '\n' :: t) ↔ ¬ f.DeclaredIn l ∧ (f.OpenOn l ∨ f.LeftOpen t) := by
  unfold LeftOpen
  rw [Text.lines_more hl]
  constructor
  · rintro ⟨before, line, after, split, more, open_on, undeclared⟩
    cases before with
    | nil =>
      obtain ⟨rfl, -⟩ := List.cons.inj split
      exact ⟨undeclared l (by simp), .inl open_on⟩
    | cons first before =>
      obtain ⟨rfl, below⟩ := List.cons.inj split
      refine ⟨undeclared l (by simp), .inr ⟨before, line, after, below, more, open_on, ?_⟩⟩
      intro x hx
      exact undeclared x (List.mem_cons_of_mem l hx)
  · rintro ⟨undeclared, open_on | ⟨before, line, after, split, more, open_on, later⟩⟩
    · exact ⟨[], l, Text.lines t, rfl, Text.lines_ne_nil t, open_on, by simpa using undeclared⟩
    · refine ⟨l :: before, line, after, by rw [split]; rfl, more, open_on, ?_⟩
      exact List.forall_mem_cons.2 ⟨undeclared, later⟩

theorem not_left_open_line {f : HeaderField} {l : Text} (hl : '\n' ∉ l) : ¬ f.LeftOpen l := by
  rintro ⟨before, line, after, split, more, -⟩
  rw [Text.lines_last hl] at split
  have count := congrArg List.length split
  have some_line := List.length_pos_of_ne_nil more
  rw [List.length_singleton, List.length_append, List.length_cons] at count
  omega

theorem value_returned (v : Text) : value? (v ++ ['\r']) = value? v := by
  unfold value?
  rw [Text.trimEnd_append Text.return_blank]

theorem capture_crlf (f : HeaderField) (content : Text) :
    f.LeftOpen content ∧ (f.capture? (Text.crlf content)).bind value? = none ∨
      ¬ f.LeftOpen content ∧
        (f.capture? (Text.crlf content)).bind value? = (f.capture? content).bind value? := by
  induction content using Text.by_lines with
  | last l hl => exact .inr ⟨not_left_open_line hl, by rw [Text.crlf_line hl]⟩
  | more l t hl ih =>
    rw [left_open_more hl, Text.crlf_more hl, f.capture_break, f.capture_break]
    cases found : f.capture? l with
    | some v =>
      have declared : f.DeclaredIn l := by
        by_contra undeclared
        rw [capture_none_iff.2 undeclared] at found
        exact absurd found (by simp)
      refine .inr ⟨fun h => h.1 declared, ?_⟩
      rw [capture_returned hl found, Option.some_or, Option.some_or, Option.bind_some,
        Option.bind_some, value_returned]
    | none =>
      have undeclared := capture_none_iff.1 found
      by_cases open_on : f.OpenOn l
      · have blank : value? ['\r'] = none := by decide
        refine .inl ⟨⟨undeclared, .inl open_on⟩, ?_⟩
        rw [capture_open hl found open_on, Option.some_or, Option.bind_some, blank]
      · rw [capture_closed hl found open_on, Option.none_or, Option.none_or]
        rcases ih with ⟨left, same⟩ | ⟨not_left, same⟩
        · exact .inl ⟨⟨undeclared, .inr left⟩, same⟩
        · exact .inr ⟨fun h => h.2.elim open_on not_left, same⟩

end HeaderField

namespace Document

/-- A header field that a line leaves open has its default when lines end in a carriage return and a
line feed, whatever stands further down. Every other field is the same with both line ends. So line
ends make a difference exactly to a field that is left open and given a value later on. -/
theorem header_crlf (id content : Text) (f : HeaderField) :
    (f.LeftOpen content ∧ f.of (read id (Text.crlf content)) = f.default ∨
      ¬ f.LeftOpen content ∧ f.of (read id (Text.crlf content)) = f.of (read id content)) ∧
    (f.of (read id (Text.crlf content)) = f.of (read id content) ↔
      ¬ f.LeftOpen content ∨ f.of (read id content) = f.default) := by
  have told : f.LeftOpen content ∧ f.of (read id (Text.crlf content)) = f.default ∨
      ¬ f.LeftOpen content ∧ f.of (read id (Text.crlf content)) = f.of (read id content) := by
    rw [HeaderField.of_read, HeaderField.of_read]
    rcases f.capture_crlf content with ⟨left, blank⟩ | ⟨not_left, same⟩
    · exact .inl ⟨left, by rw [blank]; rfl⟩
    · exact .inr ⟨not_left, by rw [same]⟩
  refine ⟨told, ?_⟩
  rcases told with ⟨left, default⟩ | ⟨not_left, same⟩
  · rw [default]
    constructor
    · intro same
      exact .inr same.symm
    · rintro (not_left | same)
      · exact absurd left not_left
      · exact same.symm
  · exact iff_of_true same (.inl not_left)

/-- A status that is left open on one line and given on the next. -/
theorem header_crlf_left_open :
    ¬ ∀ id content : Text, '\r' ∉ content →
      ∀ f : HeaderField, f.of (read id (Text.crlf content)) = f.of (read id content) := by
  intro same
  have status := same "US-001" "**Status**: \n**Status**: Done\n" (by decide) .status
  exact absurd status (by decide)

end Document

end Backlog

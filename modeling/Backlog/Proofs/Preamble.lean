import Backlog.Discrepancy
import Backlog.Proofs.HeaderFields
/-!
Header fields and what stands below them. A field that the preamble of a document declares is read
there, whatever follows; any other field is looked for in the rest of the document.

- `HeaderField.DeclaredIn`: a text has a place that gives the field;
- `HeaderField.capture_append`: the first place is in the preamble, or else behind it;
- `Document.header_of_preamble`: what stands below changes no field that the preamble declares.
-/
namespace Backlog
set_option autoImplicit false

/-- A text that is empty or ends with a line feed. -/
def Text.EndsLine (t : Text) : Prop := t = [] ∨ t.getLast? = some '\n'

namespace Document

/-! ## Marks in front of a line feed -/

theorem marked_front_iff {mark t : Text} :
    MarkedAt mark t 0 ↔ ∃ c : Char, c ≠ '\n' ∧ mark ++ [c] <+: t := by
  unfold MarkedAt
  rw [List.drop_zero]
  constructor
  · rintro ⟨c, rest, rfl, hc⟩
    exact ⟨c, hc, rest, by simp⟩
  · rintro ⟨c, hc, rest, rfl⟩
    exact ⟨c, rest, by simp, hc⟩

/-- A mark and what makes it count stand on one line. -/
theorem marked_front_cut {mark : Text} (h : '\n' ∉ mark) (t u : Text) :
    MarkedAt mark (t ++ '\n' :: u) 0 ↔ MarkedAt mark t 0 := by
  rw [marked_front_iff, marked_front_iff]
  refine exists_congr fun c => and_congr_right fun hc => ?_
  have line : '\n' ∉ mark ++ [c] := by simp [h, Ne.symm hc]
  exact Text.prefix_line line t u

/-- Behind a line feed the search starts afresh. -/
theorem marked_append {mark : Text} (h : '\n' ∉ mark) (t u : Text) :
    marked? mark (t ++ '\n' :: u) = (marked? mark t).or (marked? mark u) := by
  induction t with
  | nil =>
    have far : ¬ MarkedAt mark ('\n' :: u) 0 := by
      intro m
      exact not_marked_at_nil mark 0 ((marked_front_cut h [] u).1 m)
    rw [List.nil_append, marked_later far]
    rfl
  | cons c t ih =>
    by_cases here : MarkedAt mark (c :: t) 0
    · have there := (marked_front_cut h (c :: t) u).2 here
      obtain ⟨rest, found, -⟩ := marked_at_iff.1 here
      have whole : c :: t = mark ++ rest :=
        (List.isPrefixOf?_eq_some_iff_append_eq.1 found).symm
      have cut := rest_of_line_cut rest u
      rw [List.cons_append] at there ⊢
      rw [marked_here there, marked_here here, ← List.cons_append, whole, List.append_assoc,
        List.drop_left, List.drop_left, cut]
      rfl
    · have there := mt (marked_front_cut h (c :: t) u).1 here
      rw [List.cons_append] at there ⊢
      rw [marked_later there, marked_later here, ih]

theorem first_title_append (t u : Text) :
    firstAtLine? titleHere? true (t ++ '\n' :: u) =
      (firstAtLine? titleHere? true t).or (firstAtLine? titleHere? true u) := by
  rw [first_title_lines, first_title_lines, first_title_lines, Text.lines_append,
    List.findSome?_append]

end Document

namespace HeaderField

open Document

/-- A text has a place that gives the field: a title line, or the field's mark with something behind
it. -/
def DeclaredIn (f : HeaderField) (content : Text) : Prop :=
  match f.label? with
  | none => ∃ l ∈ Text.lines content, ∃ title, IsTitleLine l title
  | some label => ∃ place, MarkedAt (fieldMark label) content place

theorem capture_none_iff {f : HeaderField} {content : Text} :
    f.capture? content = none ↔ ¬ f.DeclaredIn content := by
  unfold capture? DeclaredIn
  cases f.label? with
  | none =>
    have h := no_title_iff content
    simpa using h
  | some label =>
    have h := @marked_none_iff (fieldMark label) content
    simpa using h

instance (f : HeaderField) (content : Text) : Decidable (f.DeclaredIn content) :=
  decidable_of_iff (¬ f.capture? content = none) (by rw [capture_none_iff, not_not])

theorem mark_no_break {f : HeaderField} {label : Text} (h : f.label? = some label) :
    '\n' ∉ fieldMark label := by
  cases f with
  | title => exact absurd h (by simp [label?])
  | status | category | effort | sprint =>
    obtain rfl := Option.some.inj h
    decide

theorem capture_break (f : HeaderField) (t u : Text) :
    f.capture? (t ++ '\n' :: u) = (f.capture? t).or (f.capture? u) := by
  unfold capture?
  cases h : f.label? with
  | none => exact first_title_append t u
  | some label => exact marked_append (mark_no_break h) t u

theorem capture_nil (f : HeaderField) : f.capture? [] = none := by cases f <;> rfl

/-- The first place of a field is in the preamble, or else behind it. -/
theorem capture_append (f : HeaderField) {preamble : Text} (ends : preamble.EndsLine)
    (below : Text) :
    f.capture? (preamble ++ below) = (f.capture? preamble).or (f.capture? below) := by
  rcases ends with rfl | last
  · rw [capture_nil]
    rfl
  · obtain ⟨front, rfl⟩ := List.getLast?_eq_some_iff.1 last
    have alone := f.capture_break front []
    rw [capture_nil, Option.or_none] at alone
    rw [List.append_assoc, List.singleton_append, capture_break, alone]

theorem read_declared {f : HeaderField} {preamble : Text} (ends : preamble.EndsLine)
    (declared : f.DeclaredIn preamble) (id below : Text) :
    f.of (read id (preamble ++ below)) = f.of (read id preamble) := by
  have found : f.capture? preamble ≠ none := fun missing => capture_none_iff.1 missing declared
  obtain ⟨line, h⟩ := Option.ne_none_iff_exists'.1 found
  rw [of_read, of_read, f.capture_append ends, h]
  rfl

theorem read_undeclared {f : HeaderField} {preamble : Text} (ends : preamble.EndsLine)
    (undeclared : ¬ f.DeclaredIn preamble) (id below : Text) :
    f.of (read id (preamble ++ below)) = f.of (read id below) := by
  rw [of_read, of_read, f.capture_append ends, capture_none_iff.2 undeclared]
  rfl

end HeaderField

/-- Discrepancies depend on the identifier, the category and the sprint alone. -/
theorem Story.discrepancies_congr {story other : Story} (id : story.id = other.id)
    (category : story.category = other.category) (sprint : story.sprint = other.sprint)
    (catalog : Catalog) : story.discrepancies catalog = other.discrepancies catalog := by
  unfold Story.discrepancies Story.declaredSprint
  rw [id, category, sprint]

namespace Document

/-! ## Documents with one preamble -/

/-- Of two documents with one preamble, the stories agree in each header field that the preamble
declares, which is the preamble's own, and in each that neither declares below. Where they so agree
in category and sprint, they have the same discrepancies. -/
theorem header_of_preamble (id : Text) {preamble : Text} (ends : preamble.EndsLine)
    (first second : Text) :
    let settled (f : HeaderField) : Prop :=
      f.DeclaredIn preamble ∨ ¬ f.DeclaredIn first ∧ ¬ f.DeclaredIn second
    (∀ f : HeaderField, f.DeclaredIn preamble →
      f.of (read id (preamble ++ first)) = f.of (read id preamble)) ∧
    (∀ f : HeaderField, settled f →
      f.of (read id (preamble ++ first)) = f.of (read id (preamble ++ second))) ∧
    (settled .category → settled .sprint → ∀ catalog : Catalog,
      (read id (preamble ++ first)).discrepancies catalog =
        (read id (preamble ++ second)).discrepancies catalog) := by
  intro settled
  have agree (f : HeaderField) (h : settled f) :
      f.of (read id (preamble ++ first)) = f.of (read id (preamble ++ second)) := by
    by_cases declared : f.DeclaredIn preamble
    · rw [HeaderField.read_declared ends declared, HeaderField.read_declared ends declared]
    · obtain ⟨not_first, not_second⟩ := h.resolve_left declared
      rw [HeaderField.read_undeclared ends declared, HeaderField.read_undeclared ends declared,
        HeaderField.read_default (HeaderField.capture_none_iff.2 not_first),
        HeaderField.read_default (HeaderField.capture_none_iff.2 not_second)]
  refine ⟨fun f declared => HeaderField.read_declared ends declared id first, agree, ?_⟩
  intro category sprint catalog
  have same_id : (read id (preamble ++ first)).id = (read id (preamble ++ second)).id := rfl
  have same_category :
      (read id (preamble ++ first)).category = (read id (preamble ++ second)).category :=
    agree .category category
  have same_sprint : (read id (preamble ++ first)).sprint = (read id (preamble ++ second)).sprint :=
    agree .sprint sprint
  exact Story.discrepancies_congr same_id same_category same_sprint catalog

/-- A preamble with a blank sprint, and a section with another category, a sprint and a title. -/
theorem header_of_preamble_blank :
    let preamble : Text := "# US-1: A\n**Category**: Core Package\n**Sprint**:  \n\n"
    let first : Text := "## Notes\n**Category**: Testing\n**Sprint**: 7\n# US-1: B\n"
    let second : Text := "## Description\n"
    preamble.EndsLine ∧ HeaderField.category.DeclaredIn preamble ∧
      HeaderField.sprint.DeclaredIn preamble ∧
      (read "US-1" (preamble ++ first)).title = (read "US-1" preamble).title ∧
      (read "US-1" (preamble ++ first)).effort = (read "US-1" (preamble ++ second)).effort ∧
      (read "US-1" (preamble ++ first)).discrepancies Catalog.builtin =
        (read "US-1" (preamble ++ second)).discrepancies Catalog.builtin := by
  intro preamble first second
  have ends : preamble.EndsLine := .inr (by decide)
  have category : HeaderField.category.DeclaredIn preamble := by decide
  have sprint : HeaderField.sprint.DeclaredIn preamble := by decide
  obtain ⟨own, agree, discrepancies⟩ := header_of_preamble "US-1" ends first second
  refine ⟨ends, category, sprint, own .title (by decide), agree .effort ?_, ?_⟩
  · exact .inr ⟨by decide, by decide⟩
  · exact discrepancies (.inl category) (.inl sprint) Catalog.builtin

/-- A title line and a sprint in a section are those of the story when the preamble has none. -/
theorem preamble_not_alone :
    ¬ ∀ id preamble first second : Text, preamble.EndsLine →
      (∀ l ∈ Text.lines preamble, isLevelTwo l = false) →
      isLevelTwo first = true → isLevelTwo second = true →
      ∀ f : HeaderField,
        f.of (read id (preamble ++ first)) = f.of (read id (preamble ++ second)) := by
  intro same
  have title := same "US-001" "**Status**: Done\n\n" "## Notes\n\n# US-001: B\n**Sprint**: 3\n"
    "## Notes\n" (.inr (by decide)) (by decide) (by decide) (by decide) .title
  exact absurd title (by decide)

end Document

end Backlog

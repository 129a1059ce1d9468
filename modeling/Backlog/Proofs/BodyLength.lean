import Backlog.Proofs.BodyLines
import Backlog.Proofs.Bytes
import Backlog.Proofs.SectionUpdates
/-!
How long the body of a document's story can be. The lines that give one section its text are the
lines of no other section, so all blocks together hold no more than the document and one line feed.

- `Document.ownLines`: the lines of a document that belong to a section, its heading line included;
- `Document.own_lines_apart`: lines of different sections stand apart in the document;
- `Document.body_within_document`: the bound on the body's bytes.
-/
namespace Backlog.Document
set_option autoImplicit false

/-! ## Lines that belong to a section -/

/-- The first heading line of a section with the lines below it, up to the next heading of level
two. -/
def ownLines (s : Section) : List Text → List Text
  | [] => []
  | l :: ls => if IsHeadingOf s l then l :: ls.takeWhile fun l => !isLevelTwo l else ownLines s ls

theorem own_lines_here {s : Section} {l : Text} (h : IsHeadingOf s l) (ls : List Text) :
    ownLines s (l :: ls) = l :: ls.takeWhile fun l => !isLevelTwo l := if_pos h

theorem own_lines_later {s : Section} {l : Text} (h : ¬ IsHeadingOf s l) (ls : List Text) :
    ownLines s (l :: ls) = ownLines s ls := if_neg h

theorem own_lines_tail (s : Section) (ls : List Text) :
    (ownLines s ls).tail = ((below? s ls).getD []).takeWhile fun l => !isLevelTwo l := by
  induction ls with
  | nil => rfl
  | cons l ls ih =>
    by_cases h : IsHeadingOf s l
    · rw [own_lines_here h, below?, if_pos h]
      rfl
    · rw [own_lines_later h, ih, below?, if_neg h]

theorem own_lines_head {s : Section} {ls : List Text} (h : ownLines s ls ≠ []) :
    ∃ l, IsHeadingOf s l ∧ ownLines s ls = l :: (ownLines s ls).tail := by
  induction ls with
  | nil => exact absurd rfl h
  | cons l ls ih =>
    by_cases hl : IsHeadingOf s l
    · refine ⟨l, hl, ?_⟩
      rw [own_lines_here hl]
      rfl
    · rw [own_lines_later hl] at h ⊢
      exact ih h

theorem text_of_own_lines (id content : Text) (s : Section) : (read id content).text s =
    Text.trim isBlank (Text.join "\n" (ownLines s (Text.lines content)).tail) := by
  rw [text_read, section_of_lines, sectionLines, own_lines_tail]

/-! ## Lines of different sections -/

/-- No line is a heading line of two sections. -/
theorem heading_unique {s other : Section} {l : Text} (h : IsHeadingOf s l)
    (ho : IsHeadingOf other l) : s = other := by
  obtain ⟨blanks, rfl, hb⟩ := h
  obtain ⟨others, e, hob⟩ := ho
  -- One of the two headings goes on where the other one has nothing but blanks left.
  rcases List.append_eq_append_iff.1 e with ⟨rest, longer, rfl⟩ | ⟨rest, longer, rfl⟩
  · have front : IsHeadingOf s other.headingLine :=
      ⟨rest, longer, fun c hc => hb c (List.mem_append_left _ hc)⟩
    exact Story.heading_line_iff.1 front
  · have front : IsHeadingOf other s.headingLine :=
      ⟨rest, longer, fun c hc => hob c (List.mem_append_left _ hc)⟩
    exact (Story.heading_line_iff.1 front).symm

/-- In some order the lines of different sections stand one after the other in a document, behind
the lines in front of its first heading. -/
theorem own_lines_apart (ls : List Text) {ss : List Section} (differ : ss.Nodup) :
    ∃ order : List Section, order.Perm ss ∧
      ((ls.takeWhile fun l => !isLevelTwo l) ++ order.flatMap fun s => ownLines s ls).Sublist ls := by
  -- The lines in front of the first heading are those that a heading line above would take.
  induction ls generalizing ss with
  | nil => exact ⟨ss, List.Perm.refl ss, by simp [ownLines]⟩
  | cons l ls ih =>
    have kept {order : List Section} (other : ∀ s ∈ order, ¬ IsHeadingOf s l) :
        (order.flatMap fun s => ownLines s (l :: ls)) = order.flatMap fun s => ownLines s ls :=
      List.flatMap_congr fun s hs => own_lines_later (other s hs) ls
    cases h : isLevelTwo l with
    | false =>
      obtain ⟨order, perm, sub⟩ := ih differ
      refine ⟨order, perm, ?_⟩
      rw [List.takeWhile_cons_of_pos (by simp [h]), kept fun s _ => Story.not_heading h]
      exact sub.cons_cons l
    | true =>
      have front : (l :: ls).takeWhile (fun l => !isLevelTwo l) = [] :=
        List.takeWhile_cons_of_neg (by simp [h])
      simp only [front, List.nil_append]
      by_cases headed : ∃ s ∈ ss, IsHeadingOf s l
      · obtain ⟨s, hs, hl⟩ := headed
        obtain ⟨order, perm, sub⟩ := ih (differ.erase s)
        refine ⟨s :: order, (perm.cons s).trans (List.perm_cons_erase hs).symm, ?_⟩
        have others : ∀ other ∈ order, ¬ IsHeadingOf other l := by
          intro other ho hol
          obtain rfl := heading_unique hol hl
          exact differ.not_mem_erase (perm.subset ho)
        rw [List.flatMap_cons, own_lines_here hl, kept others]
        exact sub.cons_cons l
      · obtain ⟨order, perm, sub⟩ := ih differ
        refine ⟨order, perm, ?_⟩
        rw [kept fun s hs hl => headed ⟨s, perm.subset hs, hl⟩]
        exact ((List.sublist_append_right _ _).trans sub).cons l

/-! ## Blocks and the document -/

/-- In a block both line feeds stand behind the heading. A document has one behind each part. -/
theorem block_perm (story : Story) (s : Section) :
    (story.block s).Perm ((s.headingLine ++ "\n") ++ (story.text s ++ "\n")) := by
  have e : story.block s = (s.headingLine ++ "\n") ++ ("\n" ++ story.text s) := by
    simp [Story.block, Section.headingLine, headingMark]
  rw [e]
  exact List.perm_append_comm.append_left _

/-- A shown section's block takes no more than its own lines do. -/
theorem block_within_lines {id content : Text} {s : Section} (h : s ∈ (read id content).shown) :
    ((read id content).block s).Subperm
      ((ownLines s (Text.lines content)).flatMap fun l => l ++ "\n") := by
  have shows : (read id content).text s ≠ [] := by simpa [Story.hasSection] using (List.mem_filter.1 h).2
  have trimmed := text_of_own_lines id content s
  have below : (ownLines s (Text.lines content)).tail ≠ [] := by
    intro e
    rw [e] at trimmed
    exact shows trimmed
  have lines : ownLines s (Text.lines content) ≠ [] := by
    intro e
    rw [e] at below
    exact below rfl
  obtain ⟨heading, ⟨blanks, rfl, -⟩, own⟩ := own_lines_head lines
  have inside : ((read id content).text s).Sublist
      (Text.join "\n" (ownLines s (Text.lines content)).tail) := by
    rw [trimmed]
    exact (Text.trim_infix _).sublist
  rw [own, List.flatMap_cons, ← Text.join_ended _ below]
  refine (block_perm _ s).subperm.trans (List.Sublist.subperm ?_)
  have front : (s.headingLine ++ "\n").Sublist (headingMark ++ s.heading ++ blanks ++ "\n") :=
    (List.sublist_append_left _ _).append (List.Sublist.refl _)
  exact front.append (inside.append (List.Sublist.refl _))

theorem blocks_within_lines {id content : Text} {ss : List Section}
    (h : ∀ s ∈ ss, s ∈ (read id content).shown) :
    (ss.flatMap (read id content).block).Subperm
      ((ss.flatMap fun s => ownLines s (Text.lines content)).flatMap fun l => l ++ ("\n" : Text)) := by
  induction ss with
  | nil => exact List.Subperm.refl _
  | cons s ss ih =>
    obtain ⟨hs, rest⟩ := List.forall_mem_cons.1 h
    rw [List.flatMap_cons, List.flatMap_cons, List.flatMap_append]
    exact (block_within_lines hs).append (ih rest)

theorem shown_lines_apart (id content : Text) :
    ∃ order : List Section, order.Perm (read id content).shown ∧
      (order.flatMap fun s => ownLines s (Text.lines content)).Sublist (Text.lines content) := by
  have differ : (read id content).shown.Nodup := Section.all_nodup.filter _
  obtain ⟨order, perm, apart⟩ := own_lines_apart (Text.lines content) differ
  exact ⟨order, perm, (List.sublist_append_right _ _).trans apart⟩

/-- All blocks together take no more than the document and one line feed do. -/
theorem blocks_within_document (id content : Text) :
    ((read id content).shown.flatMap (read id content).block).Subperm (content ++ ("\n" : Text)) := by
  obtain ⟨order, perm, apart⟩ := shown_lines_apart id content
  have reordered : ((read id content).shown.flatMap (read id content).block).Perm
      (order.flatMap (read id content).block) := perm.symm.flatMap_right _
  have inside := blocks_within_lines fun s (hs : s ∈ order) => perm.subset hs
  have ended : content ++ ("\n" : Text) =
      (Text.lines content).flatMap fun l => l ++ ("\n" : Text) := by
    rw [← Text.join_ended _ (Text.lines_ne_nil content), Text.join_lines]
  rw [ended]
  exact reordered.subperm.trans (inside.trans (apart.flatMap _).subperm)

theorem body_length {story : Story} (h : story.shown ≠ []) :
    Text.utf8Length story.body + 2 =
      Text.utf8Length (story.shown.flatMap story.block) + 2 * story.shown.length := by
  have blocks : story.shown.map story.block ≠ [] := by simpa using h
  have ended := congrArg Text.utf8Length (Text.join_ended "\n\n" blocks)
  have two : Text.utf8Length "\n\n" = 2 := by decide
  rw [Text.utf8_length_append, Text.utf8_length_ended, two, List.length_map,
    ← List.flatMap_def] at ended
  rw [Story.body, ended, Nat.mul_comm]

/-- The lines that give the sections of a document their texts stand apart in it, those of one
section behind those of another. So the body has at most two bytes for each stored section, less
one, more than the document, and without a stored section it is empty. -/
theorem body_within_document (id content : Text) :
    let story := read id content
    let k := story.stored.length
    (∀ s, story.text s =
        Text.trim isBlank (Text.join "\n" (ownLines s (Text.lines content)).tail)) ∧
      (∃ order : List Section, order.Perm story.stored ∧
        (order.flatMap fun s => ownLines s (Text.lines content)).Sublist (Text.lines content)) ∧
      (k = 0 → story.body = []) ∧
      (1 ≤ k → Text.utf8Length story.body ≤ Text.utf8Length content + 2 * k - 1) := by
  intro story k
  have stored : story.stored = story.shown := (Story.filled_read id content).stored_eq_shown
  refine ⟨text_of_own_lines id content, ?_, fun none_stored => ?_, fun some_stored => ?_⟩
  · rw [stored]
    exact shown_lines_apart id content
  · have empty : story.stored = [] := List.eq_nil_of_length_eq_zero none_stored
    exact Story.body_empty story (stored.symm.trans empty)
  · have shown : story.shown ≠ [] := by
      rw [← stored]
      exact List.ne_nil_of_length_pos some_stored
    have within : Text.utf8Length (story.shown.flatMap story.block) ≤
        Text.utf8Length (content ++ "\n") :=
      Text.utf8_length_subperm (blocks_within_document id content)
    have one : Text.utf8Length "\n" = 1 := by decide
    rw [Text.utf8_length_append, one] at within
    have whole := body_length shown
    have count : k = story.shown.length := congrArg List.length stored
    rw [count] at some_stored ⊢
    omega

/-- Headings and texts without blank lines between them, in another order than the body's. -/
theorem body_within_document_packed :
    let content : Text := "## Notes\nx\n## Description\n### é"
    let story := read "US-1" content
    1 ≤ story.stored.length ∧
      Text.utf8Length story.body ≤ Text.utf8Length content + 2 * story.stored.length - 1 ∧
      Text.utf8Length story.body = Text.utf8Length content + 3 := by
  intro content story
  have some_stored : 1 ≤ story.stored.length := by decide
  exact ⟨some_stored, (body_within_document "US-1" content).2.2.2 some_stored, by decide⟩

end Backlog.Document

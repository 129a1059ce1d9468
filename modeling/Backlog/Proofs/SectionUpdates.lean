import Backlog.Console
import Backlog.Proofs.SectionLines
/-!
Sections after any number of updates. What is stored, what is there to show, how many sections the
table counts and what the body shows all follow the last text that each section was given.

- `Story.Filled`: no empty text is stored; an update keeps this;
- `Story.lastText`: the last text that updates give a section;
- `Story.sections_after_updates`: a story after a sequence of updates.
-/
namespace Backlog.Story
set_option autoImplicit false

/-! ## Stories without empty texts -/

/-- No empty text is stored. -/
def Filled (story : Story) : Prop := ∀ s, story.sections s ≠ some []

theorem filled_blank (id : Text) : (blank id).Filled := by
  intro s
  exact nofun

theorem filled_read (id content : Text) : (Document.read id content).Filled := by
  intro s stored
  rw [Document.sections_read] at stored
  split at stored
  next => exact absurd stored (by simp)
  next inked =>
    rw [Option.some.inj stored] at inked
    exact inked rfl

namespace Filled

variable {story : Story}

theorem set_section (h : story.Filled) (s : Section) (t : Text) : (story.setSection s t).Filled := by
  intro other
  change (if other = s then if t.isEmpty then none else some t else story.sections other) ≠ some []
  split
  next =>
    cases t with
    | nil => exact nofun
    | cons c t => simp
  next => exact h other

/-- What is stored is told by the texts alone. -/
theorem sections_eq (h : story.Filled) (s : Section) :
    story.sections s = if (story.text s).isEmpty then none else some (story.text s) := by
  have inked := h s
  unfold text
  cases e : story.sections s with
  | none => rfl
  | some t =>
    cases t with
    | nil => exact absurd e inked
    | cons c t => rfl

theorem has_section (h : story.Filled) (s : Section) :
    story.hasSection s = (story.sections s).isSome := by
  rw [h.sections_eq, hasSection]
  cases story.text s <;> rfl

theorem stored_eq_shown (h : story.Filled) : story.stored = story.shown := by
  unfold stored shown
  apply List.filter_congr
  intro s _
  exact (h.has_section s).symm

end Filled

/-! ## Updates -/

/-- The story after updates, each of which stores or removes the text of a section. -/
def updated (story : Story) (updates : List (Section × Text)) : Story :=
  updates.foldl (fun story u => story.setSection u.1 u.2) story

/-- The last text that updates give a section. Without one it is the text at the start. -/
def lastText (start : Story) (updates : List (Section × Text)) (s : Section) : Text :=
  ((updates.filter fun u => u.1 = s).map Prod.snd).getLastD (start.text s)

theorem Filled.updated {start : Story} (h : start.Filled) (updates : List (Section × Text)) :
    (start.updated updates).Filled := by
  induction updates generalizing start with
  | nil => exact h
  | cons u updates ih => exact ih (h.set_section u.1 u.2)

theorem text_updated (start : Story) (updates : List (Section × Text)) (s : Section) :
    (start.updated updates).text s = start.lastText updates s := by
  induction updates generalizing start with
  | nil => rfl
  | cons u updates ih =>
    obtain ⟨given, t⟩ := u
    have step : start.updated ((given, t) :: updates) = (start.setSection given t).updated updates :=
      rfl
    rw [step, ih]
    unfold lastText
    by_cases same : given = s
    · subst same
      rw [List.filter_cons_of_pos (by simp), List.map_cons, List.getLastD_cons, text_set_same]
    · rw [List.filter_cons_of_neg (by simpa using same), text_set_other start t (Ne.symm same)]

/-- Updates leave everything but the sections as it is. -/
theorem updated_frame (start : Story) (updates : List (Section × Text)) :
    start.updated updates = { start with sections := (start.updated updates).sections } := by
  induction updates generalizing start with
  | nil => rfl
  | cons u updates ih => exact ih (start.setSection u.1 u.2)

theorem Filled.updated_eq_iff {start : Story} (h : start.Filled)
    (updates other : List (Section × Text)) :
    start.updated other = start.updated updates ↔
      ∀ s, start.lastText other s = start.lastText updates s := by
  constructor
  · intro same s
    rw [← text_updated, same, text_updated]
  · intro alike
    have sections : (start.updated other).sections = (start.updated updates).sections := by
      funext s
      rw [(h.updated other).sections_eq, (h.updated updates).sections_eq, text_updated,
        text_updated, alike]
    rw [updated_frame start other, sections, ← updated_frame]

/-! ## What the views tell -/

/-- The stories that updates start from. -/
inductive Fresh : Story → Prop
  | blank (id : Text) : Fresh (blank id)
  | read (id content : Text) : Fresh (Document.read id content)

theorem Fresh.filled {start : Story} (h : start.Fresh) : start.Filled := by
  cases h with
  | blank id => exact filled_blank id
  | read id content => exact filled_read id content

theorem shown_updated (start : Story) (updates : List (Section × Text)) :
    (start.updated updates).shown =
      Section.all.filter fun s => !(start.lastText updates s).isEmpty := by
  unfold shown hasSection
  simp only [text_updated]

/-- After any sequence of updates a new or read story stores no empty text. Each section has the last
text it was given, and something to show exactly when it is stored. The body has one block for each
stored section, at most nine, in the order of the sections, and the table counts these. Sequences of
updates lead to one story exactly when they leave each section the same last text. -/
theorem sections_after_updates {start : Story} (h : start.Fresh) (updates : List (Section × Text))
    (catalog : Catalog) :
    let story := start.updated updates
    let blocks : List Text := (Section.all.filter fun s => !(start.lastText updates s).isEmpty).map
      fun s => "## " ++ s.heading ++ "\n\n" ++ start.lastText updates s
    (∀ s, story.sections s ≠ some []) ∧
      (∀ s, story.text s = start.lastText updates s) ∧
      (∀ s, story.hasSection s = (story.sections s).isSome) ∧
      story.stored.length = blocks.length ∧ story.stored.length ≤ 9 ∧
      story.body = Text.join "\n\n" blocks ∧
      (Console.storyRow catalog story)[3]? = some (Text.decimal blocks.length ++ "/9") ∧
      ∀ other : List (Section × Text), start.updated other = story ↔
        ∀ s, start.lastText other s = start.lastText updates s := by
  intro story blocks
  have filled : story.Filled := h.filled.updated updates
  have shown := shown_updated start updates
  have block (s : Section) :
      story.block s = "## " ++ s.heading ++ "\n\n" ++ start.lastText updates s := by
    rw [Story.block, text_updated]
  have same_blocks : story.shown.map story.block = blocks := by
    rw [shown]
    exact List.map_congr_left fun s _ => block s
  have count : story.stored.length = blocks.length := by
    rw [filled.stored_eq_shown, ← same_blocks, List.length_map]
  refine ⟨filled, text_updated start updates, filled.has_section, count, ?_, ?_, ?_,
    h.filled.updated_eq_iff updates⟩
  · exact List.length_filter_le _ Section.all
  · rw [Story.body, same_blocks]
  · rw [← count]
    rfl

/-- A read story whose sections are replaced, removed and given again. -/
theorem sections_after_updates_mixed :
    let start := Document.read "US-1" "## Notes\nold\n\n## Description\nd\n"
    let updates : List (Section × Text) := [(.notes, []), (.dependencies, "x"), (.notes, "n"),
      (.description, "e"), (.dependencies, []), (.notes, "m")]
    let story := start.updated updates
    story.body = "## Description\n\ne\n\n## Notes\n\nm" ∧ story.stored.length = 2 ∧
      start.updated [(.notes, "m"), (.description, "e")] = story := by
  intro start updates story
  obtain ⟨-, -, -, count, -, body, -, same⟩ :=
    sections_after_updates (Fresh.read "US-1" "## Notes\nold\n\n## Description\nd\n") updates
      Catalog.empty
  refine ⟨body.trans (by decide), count.trans (by decide), (same _).2 fun s => ?_⟩
  cases s <;> decide

end Backlog.Story

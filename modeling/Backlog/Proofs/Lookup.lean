import Backlog.Command
import Backlog.Proofs.CommandFlags
import Backlog.Proofs.Identifiers
/-!
One story asked for by an identifier. The first document in order is taken whose identifier is the
one asked for up to the case of letters, which is also the first such story among all that are
loaded. It may be another document than the one whose identifier has been asked for.

- `Shelf.find_cases`: the document found, or none;
- `Shelf.find_own_id`: asking by the identifier of a document;
- `Shelf.load_all_ok`: what loading all stories tells of the documents;
- `Shelf.find_as_loaded`: finding one story and loading all of them.
-/
namespace Backlog
set_option autoImplicit false

/-! ## Case of letters -/

namespace Text

theorem same_letters_iff {a b : Text} :
    sameLetters a b = true ↔ a.map Char.toLower = b.map Char.toLower := beq_iff_eq

theorem same_letters_self (t : Text) : sameLetters t t = true := same_letters_iff.2 rfl

/-- Texts that are the same up to the case of letters compare alike with any other text. -/
theorem same_letters_congr {a b : Text} (h : sameLetters a b = true) (t : Text) :
    sameLetters t a = sameLetters t b := by
  rw [sameLetters, sameLetters, same_letters_iff.1 h]

end Text

namespace Shelf

/-! ## The document found -/

theorem find_discovered {shelf : Shelf} {storage : Storage} {paths : List Text}
    (found : shelf.discover storage = .ok paths) (id : Text) :
    shelf.find storage id =
      match paths.find? fun path => Text.sameLetters (Path.storyId path) id with
      | some path => .ok path
      | none => .error (.storyNotFound id) := by
  rw [find, found]
  rfl

/-- The first document is found whose identifier is the one asked for up to the case of letters. -/
theorem find_cases {shelf : Shelf} {storage : Storage} {paths : List Text}
    (found : shelf.discover storage = .ok paths) (id : Text) :
    (∃ (before after : List Text) (path : Text), paths = before ++ path :: after ∧
      shelf.find storage id = .ok path ∧ Text.sameLetters (Path.storyId path) id = true ∧
      ∀ other ∈ before, Text.sameLetters (Path.storyId other) id = false) ∨
    (shelf.find storage id = .error (.storyNotFound id) ∧
      ∀ path ∈ paths, Text.sameLetters (Path.storyId path) id = false) := by
  have finding := find_discovered found id
  cases first : paths.find? fun path => Text.sameLetters (Path.storyId path) id with
  | some path =>
    rw [first] at finding
    obtain ⟨same, before, after, place, none_before⟩ := List.find?_eq_some_iff_append.1 first
    refine .inl ⟨before, after, path, place, finding, same, ?_⟩
    intro other h
    simpa using none_before other h
  | none =>
    rw [first] at finding
    refine .inr ⟨finding, ?_⟩
    intro path h
    simpa using List.find?_eq_none.1 first path h

theorem find_ok {shelf : Shelf} {storage : Storage} {id path : Text}
    (h : shelf.find storage id = .ok path) :
    ∃ paths : List Text, shelf.discover storage = .ok paths ∧ path ∈ paths := by
  obtain ⟨paths, found, -⟩ := bind_ok h
  refine ⟨paths, found, ?_⟩
  obtain ⟨before, after, first, rfl, taken, -⟩ | ⟨refused, -⟩ := find_cases found id
  · obtain rfl := Except.ok.inj (taken.symm.trans h)
    exact List.mem_append_right before List.mem_cons_self
  · exact absurd (refused.symm.trans h) (by simp)

/-- Identifiers that are the same up to the case of letters lead to one document. -/
theorem find_same_letters (shelf : Shelf) (storage : Storage) {id other : Text}
    (h : Text.sameLetters id other = true) (path : Text) :
    shelf.find storage id = .ok path ↔ shelf.find storage other = .ok path := by
  cases found : shelf.discover storage with
  | error e =>
    have none_found (id : Text) : shelf.find storage id = .error e := by
      rw [find, found]
      rfl
    rw [none_found, none_found]
  | ok paths =>
    have alike : (fun path => Text.sameLetters (Path.storyId path) id) =
        fun path => Text.sameLetters (Path.storyId path) other := by
      funext path
      exact Text.same_letters_congr h _
    rw [find_discovered found, find_discovered found, alike]
    cases paths.find? fun path => Text.sameLetters (Path.storyId path) other with
    | none => simp
    | some first => simp

/-! ## The identifier of a document -/

theorem load_id {storage : Storage} {path : Text} {story : Story}
    (h : storage.load path = .ok story) : story.id = Path.storyId path := by
  unfold Storage.load at h
  cases read : storage.read path with
  | error fault =>
    rw [read] at h
    exact absurd h (by simp)
  | ok content =>
    rw [read] at h
    rw [← Except.ok.inj h]
    rfl

/-- Of two places in a list, one comes before the other or they are the same. -/
theorem before_or_behind {p q : Text} {before after earlier later : List Text}
    (h : before ++ p :: after = earlier ++ q :: later) : p ∈ earlier ∨ p = q ∨ q ∈ before := by
  obtain ⟨between, rfl, rest⟩ | ⟨between, rfl, rest⟩ := List.append_eq_append_iff.1 h
  · cases between with
    | nil => exact .inr (.inl (List.cons.inj rest).1)
    | cons first between =>
      obtain ⟨rfl, -⟩ := List.cons.inj rest
      exact .inl (List.mem_append_right _ List.mem_cons_self)
  · cases between with
    | nil => exact .inr (.inl (List.cons.inj rest).1.symm)
    | cons first between =>
      obtain ⟨rfl, -⟩ := List.cons.inj rest
      exact .inr (.inr (List.mem_append_right _ List.mem_cons_self))

/-- Asked by the identifier of a document, a shelf finds the first document with this identifier up
to the case of letters, and shows it under its own identifier. This is the one asked for exactly
when each document with another case of it comes after one that has it as asked. -/
theorem find_own_id {shelf : Shelf} {storage : Storage} {paths : List Text} {asked : Text}
    (found : shelf.discover storage = .ok paths) (h : asked ∈ paths) :
    let id := Path.storyId asked
    ∃ (before after : List Text) (path : Text), paths = before ++ path :: after ∧
      shelf.find storage id = .ok path ∧ Text.sameLetters (Path.storyId path) id = true ∧
      (∀ other ∈ before, Text.sameLetters (Path.storyId other) id = false) ∧
      (Path.storyId path = id ↔ ∀ (earlier later : List Text) (other : Text),
        paths = earlier ++ other :: later → Text.sameLetters (Path.storyId other) id = true →
          Path.storyId other ≠ id → ∃ exactly ∈ earlier, Path.storyId exactly = id) ∧
      (∀ story : Story, storage.load path = .ok story → story.id = Path.storyId path) ∧
      ∀ (json : Bool) (p : Project), p.shelf = shelf →
        Command.details id json p storage = Command.details (Path.storyId path) json p storage := by
  intro id
  obtain ⟨before, after, path, place, finding, same, none_before⟩ | ⟨-, none_same⟩ :=
    find_cases found id
  · refine ⟨before, after, path, place, finding, same, none_before, ?_, fun _ => load_id, ?_⟩
    · constructor
      · intro own earlier later other split other_same differs
        obtain early | rfl | first := before_or_behind (place.symm.trans split)
        · exact ⟨path, early, own⟩
        · exact absurd own differs
        · rw [none_before other first] at other_same
          exact Bool.noConfusion other_same
      · intro behind
        by_contra differs
        obtain ⟨exactly, early, e⟩ := behind before after path place same differs
        have alike := none_before exactly early
        rw [e, Text.same_letters_self] at alike
        exact Bool.noConfusion alike
    · rintro json p rfl
      have again := (find_same_letters p.shelf storage same path).2 finding
      rw [Command.details, Command.details, finding, again]
  · have self := none_same asked h
    rw [Text.same_letters_self] at self
    exact Bool.noConfusion self

/-- A document alone with its identifier, and the later one of two whose identifiers differ in case
only. -/
theorem find_own_id_variants :
    let shelf : Shelf := ⟨"d", "US", Catalog.empty⟩
    let storage := filesNamed ["US-1a.md", "US-1A.md", "US-2.md"]
    shelf.discover storage = .ok ["d/US-1A.md", "d/US-1a.md", "d/US-2.md"] ∧
      (∃ path : Text, shelf.find storage "US-2" = .ok path ∧ Path.storyId path = "US-2") ∧
      ∃ path : Text, shelf.find storage "US-1a" = .ok path ∧ Path.storyId path ≠ "US-1a" := by
  intro shelf storage
  have found : shelf.discover storage = .ok ["d/US-1A.md", "d/US-1a.md", "d/US-2.md"] :=
    discover_files_named ["US-1A.md", "US-1a.md", "US-2.md"] (by decide) (by decide) (by decide) _
  have alone : Path.storyId "d/US-2.md" = "US-2" := by decide
  have later : Path.storyId "d/US-1a.md" = "US-1a" := by decide
  obtain ⟨-, -, path, -, finding, -, -, exact_iff, -⟩ :=
    find_own_id found (by decide : ("d/US-2.md" : Text) ∈ _)
  obtain ⟨-, -, other, -, other_finding, -, -, other_iff, -⟩ :=
    find_own_id found (by decide : ("d/US-1a.md" : Text) ∈ _)
  rw [alone] at finding exact_iff
  rw [later] at other_finding other_iff
  refine ⟨found, ⟨path, finding, exact_iff.2 ?_⟩, other, other_finding, ?_⟩
  · intro earlier behind variant split same differs
    have listed : variant ∈ (["d/US-1A.md", "d/US-1a.md", "d/US-2.md"] : List Text) := by
      rw [split]
      exact List.mem_append_right _ List.mem_cons_self
    simp only [List.mem_cons, List.not_mem_nil, or_false] at listed
    rcases listed with rfl | rfl | rfl
    · exact absurd same (by decide)
    · exact absurd same (by decide)
    · exact absurd alone differs
  · intro same
    obtain ⟨exactly, early, -⟩ := other_iff.1 same [] ["d/US-1a.md", "d/US-2.md"] "d/US-1A.md" rfl
      (by decide) (by decide)
    exact absurd early List.not_mem_nil

/-- A document may be found with another case of the identifier. -/
theorem find_own_id_other_case :
    ¬ ∀ (shelf : Shelf) (storage : Storage) (entries : List Entry) (paths : List Text)
      (asked : Text), storage.Lists shelf.dir entries → IsListing entries →
        shelf.discover storage = .ok paths → asked ∈ paths →
          ∃ path : Text, shelf.find storage (Path.storyId asked) = .ok path ∧
            Path.storyId path = Path.storyId asked := by
  intro own
  have found : Shelf.discover ⟨"d", "US", Catalog.empty⟩ (filesNamed ["US-1a.md", "US-1A.md"]) =
      .ok ["d/US-1A.md", "d/US-1a.md"] :=
    discover_files_named ["US-1A.md", "US-1a.md"] (by decide) (by decide) (by decide) _
  obtain ⟨path, finding, same⟩ := own ⟨"d", "US", Catalog.empty⟩
    (filesNamed ["US-1a.md", "US-1A.md"]) _ ["d/US-1A.md", "d/US-1a.md"] "d/US-1a.md"
    (files_named_lists _) ⟨by decide, by decide⟩ found (by decide)
  have first : Shelf.find ⟨"d", "US", Catalog.empty⟩ (filesNamed ["US-1a.md", "US-1A.md"])
      (Path.storyId "d/US-1a.md") = .ok "d/US-1A.md" := by
    rw [find_discovered found]
    rfl
  obtain rfl := Except.ok.inj (first.symm.trans finding)
  exact absurd same (by decide)

/-! ## All stories loaded -/

theorem load_paths_ok {storage : Storage} {paths : List Text} {stories : List Story}
    (h : loadPaths storage paths = .ok stories) : paths.map storage.load = stories.map .ok := by
  induction paths generalizing stories with
  | nil =>
    rw [← Except.ok.inj h]
    rfl
  | cons path paths ih =>
    rw [loadPaths] at h
    obtain ⟨story, loaded, rest⟩ := bind_ok h
    obtain ⟨others, all, done⟩ := bind_ok rest
    rw [← Except.ok.inj done, List.map_cons, List.map_cons, loaded, ih all]

theorem load_all_ok {shelf : Shelf} {storage : Storage} {stories : List Story}
    (h : shelf.loadAll storage = .ok stories) :
    ∃ paths : List Text, shelf.discover storage = .ok paths ∧
      paths.map storage.load = stories.map .ok := by
  obtain ⟨paths, found, all⟩ := bind_ok h
  exact ⟨paths, found, load_paths_ok all⟩

theorem loaded_ids {storage : Storage} {paths : List Text} {stories : List Story}
    (h : paths.map storage.load = stories.map .ok) :
    stories.map (·.id) = paths.map Path.storyId := by
  induction paths generalizing stories with
  | nil =>
    obtain rfl := List.map_eq_nil_iff.1 h.symm
    rfl
  | cons path paths ih =>
    cases stories with
    | nil => exact absurd h (by simp)
    | cons story stories =>
      obtain ⟨first, rest⟩ := List.cons.inj h
      rw [List.map_cons, List.map_cons, load_id first, ih rest]

/-- What holds of the identifiers of loaded stories holds of those of their documents. -/
theorem forall_loaded {storage : Storage} {paths : List Text} {stories : List Story}
    (h : paths.map storage.load = stories.map .ok) (P : Text → Prop) :
    (∀ story ∈ stories, P story.id) ↔ ∀ path ∈ paths, P (Path.storyId path) := by
  have stories_ids : (∀ id ∈ stories.map (·.id), P id) ↔ ∀ story ∈ stories, P story.id :=
    List.forall_mem_map
  have paths_ids : (∀ id ∈ paths.map Path.storyId, P id) ↔ ∀ path ∈ paths, P (Path.storyId path) :=
    List.forall_mem_map
  rw [← stories_ids, ← paths_ids, loaded_ids h]

/-- When all stories can be loaded, the story of the document found is the first one loaded with the
identifier asked for up to the case of letters, and when no such story is loaded, none is found. The
case of letters in what is asked for plays no part. -/
theorem find_as_loaded {shelf : Shelf} {storage : Storage} {stories : List Story}
    (loaded : shelf.loadAll storage = .ok stories) (id : Text) :
    ((∃ story ∈ stories, Text.sameLetters story.id id = true) →
      ∃ (path : Text) (before after : List Story) (story : Story),
        shelf.find storage id = .ok path ∧ storage.load path = .ok story ∧
        stories = before ++ story :: after ∧ Text.sameLetters story.id id = true ∧
        ∀ other ∈ before, Text.sameLetters other.id id = false) ∧
    ((∀ story ∈ stories, Text.sameLetters story.id id = false) →
      shelf.find storage id = .error (.storyNotFound id)) ∧
    ∀ other : Text, Text.sameLetters id other = true → ∀ path : Text,
      shelf.find storage id = .ok path ↔ shelf.find storage other = .ok path := by
  obtain ⟨paths, found, all⟩ := load_all_ok loaded
  refine ⟨?_, ?_, fun other h path => find_same_letters shelf storage h path⟩
  · rintro ⟨wanted, hw, same⟩
    obtain ⟨before, after, path, rfl, finding, path_same, none_before⟩ | ⟨-, none_same⟩ :=
      find_cases found id
    · rw [List.map_append, List.map_cons] at all
      obtain ⟨front, back, rfl, hfront, hback⟩ := List.map_eq_append_iff.1 all.symm
      obtain ⟨story, later, rfl, hload, -⟩ := List.map_eq_cons_iff.1 hback
      refine ⟨path, front, later, story, finding, hload.symm, rfl, ?_, ?_⟩
      · rw [load_id hload.symm]
        exact path_same
      · exact (forall_loaded hfront.symm (Text.sameLetters · id = false)).2 none_before
    · have differs := (forall_loaded all (Text.sameLetters · id = false)).2 none_same wanted hw
      rw [differs] at same
      exact Bool.noConfusion same
  · intro none_same
    have none_found := (forall_loaded all (Text.sameLetters · id = false)).1 none_same
    obtain ⟨before, after, path, rfl, -, path_same, -⟩ | ⟨missing, -⟩ := find_cases found id
    · rw [none_found path (List.mem_append_right _ List.mem_cons_self)] at path_same
      exact Bool.noConfusion path_same
    · exact missing

/-- Two stories whose identifiers differ in case only are loaded, and the first of them is found. -/
theorem find_as_loaded_variants :
    let shelf : Shelf := ⟨"d", "US", Catalog.empty⟩
    let storage := filesNamed ["US-1a.md", "US-2.md", "US-1A.md"]
    let read := fun id : Text => Document.read id []
    shelf.loadAll storage = .ok [read "US-1A", read "US-1a", read "US-2"] ∧
      (∃ (path : Text) (story : Story), shelf.find storage "us-1a" = .ok path ∧
        storage.load path = .ok story ∧ story.id = "US-1A") ∧
      shelf.find storage "US-3" = .error (.storyNotFound "US-3") := by
  intro shelf storage read
  have loaded : shelf.loadAll storage = .ok [read "US-1A", read "US-1a", read "US-2"] := by
    rw [loadAll]
    have found : shelf.discover storage = .ok ["d/US-1A.md", "d/US-1a.md", "d/US-2.md"] :=
      discover_files_named ["US-1A.md", "US-1a.md", "US-2.md"] (by decide) (by decide) (by decide) _
    rw [found]
    rfl
  obtain ⟨path, before, after, story, finding, load, split, same, none_before⟩ :=
    (find_as_loaded loaded "us-1a").1 ⟨read "US-1A", List.mem_cons_self, by decide⟩
  have missing := (find_as_loaded loaded "US-3").2.1 (by decide)
  refine ⟨loaded, ⟨path, story, finding, load, ?_⟩, missing⟩
  cases before with
  | nil =>
    rw [← (List.cons.inj split).1]
    rfl
  | cons first before =>
    have differs := none_before first List.mem_cons_self
    rw [← (List.cons.inj split).1] at differs
    exact absurd differs (by decide)

end Shelf

end Backlog

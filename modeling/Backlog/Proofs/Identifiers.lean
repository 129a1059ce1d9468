import Backlog.Proofs.Discovery
/-!
The identifiers of documents. An identifier is the stem of a document's name up to the second
hyphen, so that it reaches beyond the mark only where the mark has no hyphen of its own.

- `Path.up_to_second_hyphen_more`, `Path.up_to_second_hyphen_held`: where the second hyphen is;
- `Path.up_to_second_hyphen_iff`: the text up to there, and what may stand behind it;
- `Shelf.id_of_document`: the identifier that a document's name gives;
- `Shelf.ids_led_by_mark`: the marks that the identifiers of a shelf start with;
- `Shelf.id_before_slug`: a document's name is its identifier and a slug, which plays no part in it.
-/
namespace Backlog
set_option autoImplicit false

/-! ## Up to the second hyphen -/

namespace Path

theorem join_two (a b : Text) : Text.join "-" [a, b] = a ++ '-' :: b := by
  rw [Text.join_more _ _ (List.cons_ne_nil b []), Text.join_single, List.append_assoc]
  rfl

theorem up_to_second_hyphen_two {front rest : Text} (hf : '-' ∉ front) (hr : '-' ∉ rest) :
    upToSecondHyphen (front ++ '-' :: rest) = front ++ '-' :: rest := by
  unfold upToSecondHyphen
  rw [List.splitOn_append_cons_self_of_not_mem hf, List.splitOn_eq_singleton hr]
  exact join_two front rest

theorem up_to_second_hyphen_more {front middle : Text} (hf : '-' ∉ front) (hm : '-' ∉ middle)
    (rest : Text) :
    upToSecondHyphen (front ++ '-' :: (middle ++ '-' :: rest)) = front ++ '-' :: middle := by
  unfold upToSecondHyphen
  rw [List.splitOn_append_cons_self_of_not_mem hf, List.splitOn_append_cons_self_of_not_mem hm]
  exact join_two front middle

/-- Behind a text with a hyphen of its own, a further hyphen is the second one or a later one. -/
theorem up_to_second_hyphen_held {front : Text} (held : '-' ∈ front) (rest : Text) :
    upToSecondHyphen (front ++ '-' :: rest) = upToSecondHyphen front := by
  obtain ⟨l, r, rfl⟩ := List.append_of_mem held
  have two : 2 ≤ ((l ++ '-' :: r).splitOn '-').length := by
    rw [List.splitOn_append_cons_self, List.length_append]
    have left := List.length_pos_iff.2 (List.splitOn_ne_nil '-' l)
    have right := List.length_pos_iff.2 (List.splitOn_ne_nil '-' r)
    omega
  unfold upToSecondHyphen
  rw [List.splitOn_append_cons_self (l ++ '-' :: r), List.take_append_of_le_length two]

theorem up_to_second_hyphen_prefix (t : Text) : upToSecondHyphen t <+: t := by
  by_cases hyphen : '-' ∈ t
  · obtain ⟨front, rest, rfl, hf⟩ := List.eq_append_cons_of_mem hyphen
    by_cases second : '-' ∈ rest
    · obtain ⟨middle, rest, rfl, hm⟩ := List.eq_append_cons_of_mem second
      rw [up_to_second_hyphen_more hf hm]
      exact ⟨'-' :: rest, by simp⟩
    · exact (up_to_second_hyphen_two hf second).symm ▸ List.prefix_rfl
  · unfold upToSecondHyphen
    rw [List.splitOn_eq_singleton hyphen]
    exact (Text.join_single _ t).symm ▸ List.prefix_rfl

theorem led_up_to_second_hyphen {front : Text} (hf : '-' ∉ front) (rest : Text) :
    front ++ ['-'] <+: upToSecondHyphen (front ++ '-' :: rest) := by
  by_cases second : '-' ∈ rest
  · obtain ⟨middle, rest, rfl, hm⟩ := List.eq_append_cons_of_mem second
    rw [up_to_second_hyphen_more hf hm]
    exact ⟨middle, by simp⟩
  · rw [up_to_second_hyphen_two hf second]
    exact ⟨rest, by simp⟩

theorem one_hyphen_iff {t : Text} :
    t.count '-' = 1 ↔ ∃ front rest : Text, '-' ∉ front ∧ '-' ∉ rest ∧ t = front ++ '-' :: rest := by
  constructor
  · intro one
    have hyphen : '-' ∈ t := List.count_pos_iff.1 (by omega)
    obtain ⟨front, rest, rfl, hf⟩ := List.eq_append_cons_of_mem hyphen
    refine ⟨front, rest, hf, ?_, rfl⟩
    rw [List.count_append, List.count_cons_self, List.count_eq_zero_of_not_mem hf] at one
    apply List.count_eq_zero.1
    omega
  · rintro ⟨front, rest, hf, hr, rfl⟩
    rw [List.count_append, List.count_cons_self, List.count_eq_zero_of_not_mem hf,
      List.count_eq_zero_of_not_mem hr]

/-- The cut keeps one hyphen, and behind it stands nothing or the second hyphen. -/
theorem up_to_second_hyphen_iff {t id : Text} (hyphen : '-' ∈ t) :
    upToSecondHyphen t = id ↔
      id.count '-' = 1 ∧ (t = id ∨ ∃ slug : Text, t = id ++ '-' :: slug) := by
  constructor
  · rintro rfl
    obtain ⟨front, rest, rfl, hf⟩ := List.eq_append_cons_of_mem hyphen
    by_cases second : '-' ∈ rest
    · obtain ⟨middle, slug, rfl, hm⟩ := List.eq_append_cons_of_mem second
      rw [up_to_second_hyphen_more hf hm]
      exact ⟨one_hyphen_iff.2 ⟨front, middle, hf, hm, rfl⟩, .inr ⟨slug, by simp⟩⟩
    · rw [up_to_second_hyphen_two hf second]
      exact ⟨one_hyphen_iff.2 ⟨front, rest, hf, second, rfl⟩, .inl rfl⟩
  · rintro ⟨one, whole⟩
    obtain ⟨front, rest, hf, hr, rfl⟩ := one_hyphen_iff.1 one
    obtain rfl | ⟨slug, rfl⟩ := whole
    · exact up_to_second_hyphen_two hf hr
    · rw [List.append_assoc, List.cons_append]
      exact up_to_second_hyphen_more hf hr slug

end Path

/-! ## Identifiers of documents -/

namespace Shelf

/-- The identifier that a document's name gives, whatever the directory. -/
theorem id_of_document (dir filePrefix s : Text)
    (no_slash : '/' ∉ filePrefix ++ "-" ++ s ++ ".md") :
    Path.storyId (Path.join dir (filePrefix ++ "-" ++ s ++ ".md")) =
      Path.upToSecondHyphen (filePrefix ++ '-' :: s) := by
  have document : isDocumentName filePrefix (filePrefix ++ "-" ++ s ++ ".md") = true :=
    document_name_iff.2 ⟨s, rfl⟩
  have named := Path.file_name_join dir (document_is_file_name document no_slash)
  have cut : Path.splitExtension (filePrefix ++ "-" ++ s ++ ".md") =
      (filePrefix ++ '-' :: s, some ("md" : Text)) := by
    have at_dot := Path.split_at_last_dot (List.append_ne_nil_of_right_ne_nil filePrefix
      (List.cons_ne_nil '-' s)) (by decide : '.' ∉ ("md" : Text))
    rw [← at_dot]
    simp
  rw [Path.storyId, Path.stem?, named, Option.map_some, cut, Option.getD_some]

/-- Behind a mark without hyphens, the identifier ends with the part up to the next hyphen. -/
theorem id_of_part (dir : Text) {filePrefix part : Text} (slug : Text)
    (mark_free : '-' ∉ filePrefix) (part_free : '-' ∉ part)
    (no_slash : '/' ∉ filePrefix ++ "-" ++ part ++ "-" ++ slug ++ ".md") :
    Path.storyId (Path.join dir (filePrefix ++ "-" ++ part ++ "-" ++ slug ++ ".md")) =
      filePrefix ++ "-" ++ part := by
  have whole : filePrefix ++ "-" ++ part ++ "-" ++ slug ++ ".md" =
      filePrefix ++ "-" ++ (part ++ '-' :: slug) ++ ".md" := by simp
  rw [whole] at no_slash ⊢
  rw [id_of_document dir filePrefix _ no_slash, Path.up_to_second_hyphen_more mark_free part_free]
  simp

theorem id_of_stem (dir : Text) {stem : Text} (hyphen : '-' ∈ stem) (no_slash : '/' ∉ stem) :
    Path.storyId (Path.join dir (stem ++ ".md")) = Path.upToSecondHyphen stem := by
  obtain ⟨front, rest, rfl⟩ := List.append_of_mem hyphen
  have whole : front ++ '-' :: rest ++ ".md" = front ++ "-" ++ rest ++ ".md" := by simp
  rw [whole]
  apply id_of_document
  rw [← whole, List.mem_append, not_or]
  exact ⟨no_slash, by decide⟩

/-- Identifiers start with the mark and a hyphen exactly when the mark has no hyphen. Then documents
with different parts behind the mark have different identifiers. Behind a mark with a hyphen, all
documents have one identifier, the mark up to its second hyphen. -/
theorem ids_led_by_mark (shelf : Shelf) (storage : Storage) (entries : List Entry)
    (listed : storage.Lists shelf.dir entries) (h : IsListing entries) :
    let names := documentNames shelf.filePrefix entries
    let document := fun part slug : Text => shelf.filePrefix ++ "-" ++ part ++ "-" ++ slug ++ ".md"
    let id := fun name : Text => Path.storyId (Path.join shelf.dir name)
    shelf.discover storage = .ok (names.map (Path.join shelf.dir)) ∧
      (∀ name ∈ names, shelf.filePrefix ++ ['-'] <+: id name ↔ '-' ∉ shelf.filePrefix) ∧
      ('-' ∉ shelf.filePrefix → ∀ a b x y : Text, '-' ∉ a → '-' ∉ b →
        document a x ∈ names → document b y ∈ names →
          id (document a x) = shelf.filePrefix ++ "-" ++ a ∧
            (id (document a x) = id (document b y) ↔ a = b)) ∧
      ('-' ∈ shelf.filePrefix →
        ∀ name ∈ names, id name = Path.upToSecondHyphen shelf.filePrefix) := by
  intro names document id
  have no_slash {name : Text} (found : name ∈ names) : '/' ∉ name :=
    h.text_no_slash (mem_document_names.1 found).1
  have id_cut {name : Text} (found : name ∈ names) :
      ∃ s : Text, id name = Path.upToSecondHyphen (shelf.filePrefix ++ '-' :: s) := by
    obtain ⟨s, rfl⟩ := document_name_iff.1 (mem_document_names.1 found).2
    exact ⟨s, id_of_document _ _ _ (no_slash found)⟩
  refine ⟨discover_lists listed, ?_, ?_, ?_⟩
  · intro name found
    obtain ⟨s, cut⟩ := id_cut found
    rw [cut]
    constructor
    · intro led held
      rw [Path.up_to_second_hyphen_held held] at led
      have within := (led.trans (Path.up_to_second_hyphen_prefix _)).length_le
      rw [List.length_append, List.length_singleton] at within
      omega
    · intro free
      exact Path.led_up_to_second_hyphen free s
  · intro free a b x y ha hb found other
    have first : id (document a x) = shelf.filePrefix ++ "-" ++ a :=
      id_of_part shelf.dir x free ha (no_slash found)
    have second : id (document b y) = shelf.filePrefix ++ "-" ++ b :=
      id_of_part shelf.dir y free hb (no_slash other)
    refine ⟨first, ?_⟩
    rw [first, second]
    exact List.append_right_inj _
  · intro held name found
    obtain ⟨s, cut⟩ := id_cut found
    rw [cut, Path.up_to_second_hyphen_held held]

/-- The directory `d` with empty files of these names. -/
def filesNamed (names : List Text) : Storage where
  list := fun dir =>
    if dir = "d" then .ok (names.map fun name => ⟨Text.utf8 name, .file⟩) else .error .noDirectory
  read := fun _ => .ok []

theorem files_named_lists (names : List Text) :
    (filesNamed names).Lists "d" (names.map fun name => ⟨Text.utf8 name, .file⟩) := by
  refine ⟨rfl, fun e inside fault => ?_⟩
  obtain ⟨name, -, rfl⟩ := List.mem_map.1 inside
  simp

theorem discover_files_named {filePrefix : Text} {names : List Text} (sorted : List Text)
    (perm : sorted.Perm names) (ordered : (sorted.map Text.utf8).Pairwise (· ≤ ·))
    (documents : ∀ name ∈ sorted, isDocumentName filePrefix name = true) (catalog : Catalog) :
    discover ⟨"d", filePrefix, catalog⟩ (filesNamed names) = .ok (sorted.map (Path.join "d")) := by
  have files : ((names.map fun name => (⟨Text.utf8 name, .file⟩ : Entry)).filter
      fun e => e.kind == .file).map (·.name) = names.map Text.utf8 := by
    rw [List.filter_eq_self.2 (by simp), List.map_map]
    rfl
  rw [discover_in_order sorted (files_named_lists names) (files ▸ perm.map Text.utf8) ordered,
    List.filter_eq_self.2 documents]

/-- Three documents behind a mark without hyphens, and two of them behind a mark with one. -/
theorem ids_led_by_mark_twice :
    let entries : List Entry := ["US-A-1-x.md", "US-A-2-y.md", "US-B-x.md"].map fun name =>
      ⟨Text.utf8 name, .file⟩
    let id := fun name : Text => Path.storyId (Path.join "d" name)
    IsListing entries ∧ id "US-A-1-x.md" = "US-A" ∧ id "US-A-1-x.md" ≠ id "US-B-x.md" ∧
      ∀ name ∈ documentNames "US-A" entries, id name = "US-A" := by
  intro entries id
  have listed := files_named_lists ["US-A-1-x.md", "US-A-2-y.md", "US-B-x.md"]
  have listing : IsListing entries := ⟨by decide, by decide⟩
  have plain := (ids_led_by_mark ⟨"d", "US", Catalog.empty⟩ _ entries listed listing).2.2.1
    (by decide) "A" "B" "1-x" "x" (by decide) (by decide)
    (mem_document_names.2 ⟨by decide, by decide⟩) (mem_document_names.2 ⟨by decide, by decide⟩)
  have hyphened := (ids_led_by_mark ⟨"d", "US-A", Catalog.empty⟩ _ entries listed listing).2.2.2
    (by decide)
  refine ⟨listing, plain.1, ?_, hyphened⟩
  exact fun same => absurd (plain.2.1 same) (by decide)

/-- The mark `US-A` is not the start of the identifiers behind it. -/
theorem ids_not_led_by_mark :
    ¬ ∀ (shelf : Shelf) (storage : Storage) (entries : List Entry) (paths : List Text),
      storage.Lists shelf.dir entries → IsListing entries →
        shelf.discover storage = .ok paths →
          ∀ path ∈ paths, shelf.filePrefix ++ ['-'] <+: Path.storyId path := by
  intro led
  have wrong := led ⟨"d", "US-A", Catalog.empty⟩ (filesNamed ["US-A-1-x.md"]) _
    ["d/US-A-1-x.md"] (files_named_lists _) ⟨by decide, by decide⟩
    (discover_files_named ["US-A-1-x.md"] (by decide) (by decide) (by decide) _) _ List.mem_cons_self
  exact absurd wrong (by decide)

/-! ## Slugs -/

/-- What is found has a name made of a stem, with a hyphen, and the extension. -/
theorem stem_of_found {shelf : Shelf} {storage : Storage} {entries : List Entry}
    {paths : List Text} {path : Text} (listed : storage.Lists shelf.dir entries)
    (h : IsListing entries) (found : shelf.discover storage = .ok paths) (hp : path ∈ paths) :
    ∃ stem : Text, '-' ∈ stem ∧ '/' ∉ stem ∧ path = Path.join shelf.dir (stem ++ ".md") ∧
      Path.fileName? path = some (stem ++ ".md") := by
  rw [discover_lists listed] at found
  obtain rfl := Except.ok.inj found
  obtain ⟨name, hname, rfl⟩ := List.mem_map.1 hp
  obtain ⟨file, document⟩ := mem_document_names.1 hname
  have no_slash : '/' ∉ name := h.text_no_slash file
  have named := Path.file_name_join shelf.dir (document_is_file_name document no_slash)
  obtain ⟨s, rfl⟩ := document_name_iff.1 document
  refine ⟨shelf.filePrefix ++ "-" ++ s, by simp, ?_, rfl, named⟩
  intro slash
  exact no_slash (List.mem_append_left _ slash)

/-- The name of a document is its identifier, which has one hyphen, a slug behind another hyphen if
there is one, and the extension. Under a name with any other slug or with none, in whatever
directory, the document would have the same identifier. -/
theorem id_before_slug {shelf : Shelf} {storage : Storage} {entries : List Entry}
    {paths : List Text} {path : Text} (listed : storage.Lists shelf.dir entries)
    (h : IsListing entries) (found : shelf.discover storage = .ok paths) (hp : path ∈ paths) :
    let id := Path.storyId path
    id.count '-' = 1 ∧
      (∃ name rest : Text, path = Path.join shelf.dir name ∧ Path.fileName? path = some name ∧
        name = id ++ rest ∧ (rest = ".md" ∨ ∃ slug : Text, rest = "-" ++ slug ++ ".md")) ∧
      ∀ dir : Text, Path.storyId (Path.join dir (id ++ ".md")) = id ∧
        ∀ slug : Text, '/' ∉ slug →
          Path.storyId (Path.join dir (id ++ "-" ++ slug ++ ".md")) = id := by
  obtain ⟨stem, hyphen, no_slash, place, named⟩ := stem_of_found listed h found hp
  have cut : Path.upToSecondHyphen stem = Path.storyId path := by
    rw [place, id_of_stem shelf.dir hyphen no_slash]
  intro id
  obtain ⟨one, whole⟩ := (Path.up_to_second_hyphen_iff hyphen).1 cut
  have id_hyphen : '-' ∈ id := by
    apply List.count_pos_iff.1
    rw [one]
    exact Nat.one_pos
  have id_no_slash : '/' ∉ id := by
    intro slash
    have led := Path.up_to_second_hyphen_prefix stem
    rw [cut] at led
    exact no_slash (led.subset slash)
  refine ⟨one, ?_, fun dir => ⟨?_, ?_⟩⟩
  · obtain same | ⟨slug, more⟩ := whole
    · exact ⟨stem ++ ".md", ".md", place, named, by rw [same], .inl rfl⟩
    · refine ⟨stem ++ ".md", "-" ++ slug ++ ".md", place, named, ?_, .inr ⟨slug, rfl⟩⟩
      rw [more]
      simp [id]
  · rw [id_of_stem dir id_hyphen id_no_slash]
    exact (Path.up_to_second_hyphen_iff id_hyphen).2 ⟨one, .inl rfl⟩
  · intro slug slug_no_slash
    have more_hyphen : '-' ∈ id ++ "-" ++ slug := by simp
    have more_no_slash : '/' ∉ id ++ "-" ++ slug := by
      rw [List.mem_append, List.mem_append, not_or, not_or]
      exact ⟨⟨id_no_slash, by decide⟩, slug_no_slash⟩
    rw [id_of_stem dir more_hyphen more_no_slash]
    exact (Path.up_to_second_hyphen_iff more_hyphen).2 ⟨one, .inr ⟨slug, by simp⟩⟩

/-- A document without a slug, and one with dots and further hyphens in its name. -/
theorem id_before_slug_dotted :
    let storage := filesNamed ["US-.md", "US-1.2-a.b-.md"]
    let id := fun path : Text => Path.storyId path
    Shelf.discover ⟨"d", "US", Catalog.empty⟩ storage = .ok ["d/US-.md", "d/US-1.2-a.b-.md"] ∧
      id "d/US-.md" = "US-" ∧ id "d/US-1.2-a.b-.md" = "US-1.2" ∧
      (id "d/US-1.2-a.b-.md").count '-' = 1 ∧ id "e/US-1.2-.x-y.md" = "US-1.2" ∧
      id "e/US-.md" = "US-" := by
  intro storage id
  have found : Shelf.discover ⟨"d", "US", Catalog.empty⟩ storage =
      .ok ["d/US-.md", "d/US-1.2-a.b-.md"] :=
    discover_files_named ["US-.md", "US-1.2-a.b-.md"] (by decide) (by decide) (by decide) _
  have listing : IsListing (["US-.md", "US-1.2-a.b-.md"].map fun name =>
      (⟨Text.utf8 name, .file⟩ : Entry)) := ⟨by decide, by decide⟩
  have lists := files_named_lists ["US-.md", "US-1.2-a.b-.md"]
  have bare := id_before_slug lists listing found (by decide : ("d/US-.md" : Text) ∈ _)
  have slugged := id_before_slug lists listing found (by decide : ("d/US-1.2-a.b-.md" : Text) ∈ _)
  have own : id "d/US-.md" = "US-" := by decide
  have other : id "d/US-1.2-a.b-.md" = "US-1.2" := by decide
  exact ⟨found, own, other, slugged.1, (slugged.2.2 "e").2 ".x-y" (by decide), (bare.2.2 "e").1⟩

end Shelf

end Backlog

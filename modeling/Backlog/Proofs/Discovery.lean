import Mathlib.Data.List.Induction
import Backlog.Proofs.Listing
import Backlog.Shelf
/-!
The files of a directory that are documents, and the order in which they are found. A name is read
as a mark and an extension with anything in between, and the order is that of the bytes of the names,
whatever order the directory lists its entries in.

- `Shelf.document_name_iff`: the names of documents;
- `Shelf.fileNames`: the names of files in order;
- `Shelf.discover_ok_iff`, `Shelf.discover_error_cases`: where something is found, and the errors;
- `Shelf.discover_matching_files`: what is found.
-/
namespace Backlog
set_option autoImplicit false

/-! ## Names of documents -/

namespace Shelf

/-- The name of a document is the mark, a hyphen, anything, and the extension. The mark may have
hyphens and dots of its own. -/
theorem document_name_iff {filePrefix name : Text} :
    isDocumentName filePrefix name = true ↔ ∃ s : Text, name = filePrefix ++ "-" ++ s ++ ".md" := by
  have named : isDocumentName filePrefix name = true ↔
      filePrefix ++ ['-'] <+: name ∧ Path.extension? name = some ("md" : Text) := by
    rw [isDocumentName, Bool.and_eq_true, beq_iff_eq]
    exact and_congr_left' List.isPrefixOf_iff_prefix
  rw [named, Path.extension_iff]
  constructor
  · rintro ⟨⟨rest, led⟩, stem, some_stem, cut, -⟩
    rw [cut] at led
    obtain ⟨s, rfl, -⟩ | ⟨inside, reaches, ext⟩ := List.append_eq_append_iff.1 led
    · exact ⟨s, by simp [cut]⟩
    · cases inside using List.reverseRecOn with
      | nil =>
        rw [List.append_nil] at reaches
        exact ⟨[], by simp [cut, ← reaches]⟩
      | append_singleton inside c =>
        -- The hyphen behind the mark would be in the extension.
        rw [← List.append_assoc] at reaches
        obtain ⟨-, rfl⟩ := List.append_singleton_inj.1 reaches
        have hyphen : '-' ∈ '.' :: ("md" : Text) := by
          rw [ext]
          simp
        exact absurd hyphen (by decide)
  · rintro ⟨s, rfl⟩
    exact ⟨⟨s ++ ".md", by simp⟩, filePrefix ++ "-" ++ s, by simp, by simp, by decide⟩

theorem document_is_file_name {filePrefix name : Text} (h : isDocumentName filePrefix name = true)
    (no_slash : '/' ∉ name) : Path.IsFileName name := by
  obtain ⟨s, rfl⟩ := document_name_iff.1 h
  have hyphen : '-' ∈ filePrefix ++ "-" ++ s ++ ".md" := by simp
  refine ⟨⟨List.ne_nil_of_mem hyphen, no_slash⟩, ?_, ?_⟩
  · intro e
    rw [e] at hyphen
    exact absurd hyphen (by decide)
  · intro e
    rw [e] at hyphen
    exact absurd hyphen (by decide)

/-! ## Names in order -/

/-- The names of the files among entries, in the byte order. -/
def fileNames (entries : List Entry) : List (List UInt8) :=
  ((entries.filter fun e => e.kind == .file).map (·.name)).mergeSort fun a b => decide (a ≤ b)

theorem document_names_eq (filePrefix : Text) (entries : List Entry) :
    documentNames filePrefix entries =
      ((fileNames entries).filterMap Text.ofUtf8?).filter (isDocumentName filePrefix) := rfl

theorem mem_file_names {entries : List Entry} {name : List UInt8} :
    name ∈ fileNames entries ↔ ⟨name, .file⟩ ∈ entries := by
  unfold fileNames
  rw [List.mem_mergeSort, List.mem_map]
  constructor
  · rintro ⟨⟨name, kind⟩, he, rfl⟩
    obtain ⟨he, file⟩ := List.mem_filter.1 he
    obtain rfl := beq_iff_eq.1 file
    exact he
  · intro he
    exact ⟨_, List.mem_filter.2 ⟨he, rfl⟩, rfl⟩

theorem file_names_sorted (entries : List Entry) : (fileNames entries).Pairwise (· ≤ ·) := by
  have compose (a b c : List UInt8) (hab : decide (a ≤ b) = true) (hbc : decide (b ≤ c) = true) :
      decide (a ≤ c) = true :=
    decide_eq_true (List.le_trans (of_decide_eq_true hab) (of_decide_eq_true hbc))
  have compare (a b : List UInt8) : (decide (a ≤ b) || decide (b ≤ a)) = true := by
    rw [Bool.or_eq_true, decide_eq_true_eq, decide_eq_true_eq]
    exact List.le_total a b
  have ordered := List.pairwise_mergeSort compose compare
    ((entries.filter fun e => e.kind == .file).map (·.name))
  exact ordered.imp fun h => of_decide_eq_true h

/-- Entries with different names give names in strictly ascending order. -/
theorem file_names_ascend {entries : List Entry} (h : (entries.map (·.name)).Nodup) :
    (fileNames entries).Pairwise (· < ·) := by
  have kept : ((entries.filter fun e => e.kind == .file).map (·.name)).Nodup :=
    h.sublist (List.filter_sublist.map _)
  have differ : (fileNames entries).Nodup := (List.mergeSort_perm _ _).nodup_iff.2 kept
  refine ((file_names_sorted entries).and differ).imp ?_
  rintro a b ⟨le, ne⟩
  exact List.not_le.1 fun back => ne (List.le_antisymm le back)

/-- Names have one order. -/
theorem file_names_of_perm {entries : List Entry} {names : List (List UInt8)}
    (files : names.Perm ((entries.filter fun e => e.kind == .file).map (·.name)))
    (ordered : names.Pairwise (· ≤ ·)) : fileNames entries = names := by
  have same : (fileNames entries).Perm names := (List.mergeSort_perm _ _).trans files.symm
  refine same.eq_of_pairwise ?_ (file_names_sorted entries) ordered
  intro a b _ _ hab hba
  exact List.le_antisymm hab hba

theorem file_names_perm {entries others : List Entry} (h : others.Perm entries) :
    fileNames others = fileNames entries := by
  have names := (h.filter fun e => e.kind == .file).map (·.name)
  exact file_names_of_perm ((List.mergeSort_perm _ _).trans names.symm) (file_names_sorted entries)

theorem mem_document_names {filePrefix name : Text} {entries : List Entry} :
    name ∈ documentNames filePrefix entries ↔
      ⟨Text.utf8 name, .file⟩ ∈ entries ∧ isDocumentName filePrefix name = true := by
  rw [document_names_eq, List.mem_filter, List.mem_filterMap]
  simp only [Text.of_utf8_iff, exists_eq_right, mem_file_names]

theorem document_names_ascend (filePrefix : Text) {entries : List Entry}
    (h : (entries.map (·.name)).Nodup) :
    (documentNames filePrefix entries).Pairwise fun a b => Text.utf8 a < Text.utf8 b := by
  have read : ((fileNames entries).filterMap Text.ofUtf8?).Pairwise
      fun a b => Text.utf8 a < Text.utf8 b := by
    refine (file_names_ascend h).filterMap _ ?_
    intro a b less t ht u hu
    rwa [← Text.of_utf8_iff.1 ht, ← Text.of_utf8_iff.1 hu]
  exact read.filter _

/-- Files that are listed in any order are found in the order of their names. -/
theorem document_names_in_order {entries : List Entry} {names : List Text}
    (files : (names.map Text.utf8).Perm ((entries.filter fun e => e.kind == .file).map (·.name)))
    (ordered : (names.map Text.utf8).Pairwise (· ≤ ·)) (filePrefix : Text) :
    documentNames filePrefix entries = names.filter (isDocumentName filePrefix) := by
  have read : Text.ofUtf8? ∘ Text.utf8 = some := funext Text.of_utf8_utf8
  rw [document_names_eq, file_names_of_perm files ordered, List.filterMap_map, read,
    List.filterMap_some]

/-! ## What is found -/

theorem untold_none {filePrefix : Text} {entries : List Entry} :
    untold? filePrefix entries = none ↔ ∀ (name : Text) (fault : ReadFault),
      ⟨Text.utf8 name, .untold fault⟩ ∈ entries → isDocumentName filePrefix name = false := by
  unfold untold?
  rw [List.findSome?_eq_none_iff]
  constructor
  · intro all name fault inside
    have asked := all _ inside
    simpa [Text.of_utf8_utf8] using asked
  · rintro all ⟨bytes, kind⟩ inside
    split
    next fault name kind_told spelled =>
      obtain rfl : kind = .untold fault := kind_told
      obtain rfl := Text.of_utf8_iff.1 spelled
      rw [all name fault inside, if_neg Bool.false_ne_true]
    next => rfl

theorem untold_told {entries : List Entry}
    (told : ∀ e ∈ entries, ∀ fault : ReadFault, e.kind ≠ .untold fault) (filePrefix : Text) :
    untold? filePrefix entries = none :=
  untold_none.2 fun _ fault inside => absurd rfl (told _ inside fault)

theorem discover_lists {shelf : Shelf} {storage : Storage} {entries : List Entry}
    (h : storage.Lists shelf.dir entries) :
    shelf.discover storage =
      .ok ((documentNames shelf.filePrefix entries).map (Path.join shelf.dir)) := by
  rw [discover, h.listed]
  dsimp only
  rw [untold_told h.told]

theorem discover_in_order {shelf : Shelf} {storage : Storage} {entries : List Entry}
    (names : List Text) (h : storage.Lists shelf.dir entries)
    (files : (names.map Text.utf8).Perm ((entries.filter fun e => e.kind == .file).map (·.name)))
    (ordered : (names.map Text.utf8).Pairwise (· ≤ ·)) :
    shelf.discover storage =
      .ok ((names.filter (isDocumentName shelf.filePrefix)).map (Path.join shelf.dir)) := by
  rw [discover_lists h, document_names_in_order files ordered]

/-- An error names the directory, which is missing or cannot be opened, or has the words of a fault
that has ended the listing. -/
theorem discover_error_cases {shelf : Shelf} {storage : Storage} {e : StoryError}
    (h : shelf.discover storage = .error e) :
    (storage.list shelf.dir = .error .noDirectory ∧ e = .directoryNotFound shelf.dir) ∨
      (∃ fault : ReadFault, storage.list shelf.dir = .error (.unopened fault) ∧
        e = .fileUnreadable shelf.dir fault.message) ∨
      ∃ fault : ReadFault, e = .storage fault.message := by
  unfold discover at h
  split at h
  next listed => exact .inl ⟨listed, (Except.error.inj h).symm⟩
  next fault listed => exact .inr (.inl ⟨fault, listed, (Except.error.inj h).symm⟩)
  next => exact .inr (.inr ⟨_, (Except.error.inj h).symm⟩)
  next =>
    split at h
    next fault _ => exact .inr (.inr ⟨fault, (Except.error.inj h).symm⟩)
    next => exact absurd h (by simp)

/-- Found are exactly the files named by the mark, a hyphen, anything and the extension, each once
and in the ascending byte order of the names. Links and directories are not found, whatever their
names, and the order of the listing plays no part. Only what leads to no directory is told to be
missing. -/
theorem discover_matching_files (shelf : Shelf) (storage : Storage) :
    (shelf.discover storage = .error (.directoryNotFound shelf.dir) ↔
      storage.list shelf.dir = .error .noDirectory) ∧
    ∀ entries : List Entry, storage.Lists shelf.dir entries → IsListing entries →
      ∃ names : List Text,
        shelf.discover storage = .ok (names.map (Path.join shelf.dir)) ∧
        (∀ name ∈ names, Path.fileName? (Path.join shelf.dir name) = some name) ∧
        names.Pairwise (fun a b => Text.utf8 a < Text.utf8 b) ∧
        (∀ name : Text, name ∈ names ↔ ⟨Text.utf8 name, .file⟩ ∈ entries ∧
          ∃ s : Text, name = shelf.filePrefix ++ "-" ++ s ++ ".md") ∧
        (∀ e ∈ entries, e.kind ≠ .file → ∀ name ∈ names, Text.utf8 name ≠ e.name) ∧
        ∀ (other : Storage) (others : List Entry), other.list shelf.dir = .ok others →
          others.Perm entries → shelf.discover other = shelf.discover storage := by
  constructor
  · constructor
    · intro h
      obtain ⟨listed, -⟩ | ⟨fault, -, other⟩ | ⟨fault, other⟩ := discover_error_cases h
      · exact listed
      · exact absurd other (by simp)
      · exact absurd other (by simp)
    · intro listed
      rw [discover, listed]
  intro entries lists h
  refine ⟨documentNames shelf.filePrefix entries, discover_lists lists, ?_,
    document_names_ascend _ h.names_differ, ?_, ?_, ?_⟩
  · intro name found
    obtain ⟨file, document⟩ := mem_document_names.1 found
    exact Path.file_name_join _ (document_is_file_name document (h.text_no_slash file))
  · intro name
    rw [mem_document_names, document_name_iff]
  · intro e he other_kind name found same
    have file := (mem_document_names.1 found).1
    exact other_kind (congrArg Entry.kind (h.entry_unique he file same.symm))
  · intro other others listed_other perm
    have lists_other : other.Lists shelf.dir others :=
      ⟨listed_other, fun e inside => lists.told e (perm.mem_iff.1 inside)⟩
    rw [discover_lists lists, discover_lists lists_other, document_names_eq, document_names_eq,
      file_names_perm perm]

/-- A directory with two documents, a link and a directory named like documents, and a file whose
name is no text. -/
def mixedTree : Tree :=
  let tree := Tree.empty.addFile [] (Tree.names "d/US-2-b.md") []
  let tree := tree.addLink [] (Tree.names "d/US-3.md") "US-2-b.md"
  let tree := tree.addDirectory [] (Tree.names "d/US-4.md")
  let tree := tree.addFile [] (Tree.names "d" ++ [[85, 83, 45, 255, 46, 109, 100]]) []
  tree.addFile [] (Tree.names "d/US-.md") []

theorem mixed_tree_made : mixedTree.Made := by
  have below (path : Text) : Tree.Slashless (Tree.names path) := Tree.slashless_names path
  have raw : Tree.Slashless (Tree.names "d" ++ [[85, 83, 45, 255, 46, 109, 100]]) :=
    Tree.slashless_append.2 ⟨below "d", Tree.slashless_single (by decide)⟩
  have top := Tree.slashless_nil
  dsimp only [mixedTree]
  exact .file [] (.file [] (.directory (.link _ (.file [] .empty top (below _)) top (below _)) top
    (below _)) top raw) top (below _)

/-- The two documents, in their order, also when the directory is listed backwards. -/
theorem discover_matching_files_mixed :
    let shelf : Shelf := ⟨"d", "US", Catalog.empty⟩
    let storage := mixedTree.storage []
    ∃ (entries : List Entry) (names : List Text), storage.Lists "d" entries ∧
      IsListing entries ∧ shelf.discover storage = .ok (names.map (Path.join "d")) ∧
      names.Pairwise (fun a b => Text.utf8 a < Text.utf8 b) ∧
      ("US-.md" : Text) ∈ names ∧ ("US-2-b.md" : Text) ∈ names ∧ ("US-3.md" : Text) ∉ names ∧
      ("US-4.md" : Text) ∉ names ∧
      shelf.discover { storage with list := fun _ => .ok entries.reverse } =
        shelf.discover storage := by
  intro shelf storage
  have listed : mixedTree.list [] "d" = .ok [⟨Text.utf8 "US-2-b.md", .file⟩,
      ⟨Text.utf8 "US-3.md", .link⟩, ⟨Text.utf8 "US-4.md", .directory⟩,
      ⟨[85, 83, 45, 255, 46, 109, 100], .file⟩, ⟨Text.utf8 "US-.md", .file⟩] := by decide +kernel
  have lists : storage.Lists "d" _ := Tree.lists_iff.2 (Tree.list_iff.1 listed)
  have listing := Tree.made_listing mixed_tree_made lists
  obtain ⟨names, found, -, ascend, exactly, others, any_order⟩ :=
    (discover_matching_files shelf storage).2 _ lists listing
  refine ⟨_, names, lists, listing, found, ascend, ?_, ?_, ?_, ?_, ?_⟩
  · exact (exactly _).2 ⟨by decide, [], by decide⟩
  · exact (exactly _).2 ⟨by decide, "2-b", by decide⟩
  · exact fun h => others ⟨Text.utf8 "US-3.md", .link⟩ (by decide) (by decide) _ h rfl
  · exact fun h => others ⟨Text.utf8 "US-4.md", .directory⟩ (by decide) (by decide) _ h rfl
  · exact any_order _ _ rfl (List.reverse_perm _)

end Shelf

end Backlog

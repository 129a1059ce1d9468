import Backlog.Proofs.JsonForms
/-!
A configuration that is written in part. What is left out of its JSON form has its default, at either
level and in any order of what is left, and names that are not declared say nothing.

- `Json.LeavesOut`: the members of an object of which some are left out;
- `Json.LeavesOut.field`: what a field is read as when it may have been left out;
- `Config.without`: a configuration with defaults in the place of some fields;
- `Config.load_partial`: what a text that is written in part is loaded as.
-/
namespace Backlog
set_option autoImplicit false

namespace Json

/-! ## Fields among others -/

theorem field_of_named {names : List Text} {members others : List (Text × Json)}
    (h : (members.filter fun m => names.contains m.1).Perm
      (others.filter fun m => names.contains m.1)) :
    field? names members = field? names others := by
  unfold field?
  -- One order is possible where at most one member is named, and more are refused in any order.
  generalize (members.filter fun m => names.contains m.1) = found at h ⊢
  generalize (others.filter fun m => names.contains m.1) = found' at h ⊢
  rcases found with _ | ⟨a, _ | ⟨b, found⟩⟩
  · rw [h.nil_eq]
  · rw [List.singleton_perm.1 h]
  · have size := h.length_eq
    rcases found' with _ | ⟨c, _ | ⟨d, found'⟩⟩
    · exact absurd size (by simp)
    · exact absurd size (by simp)
    · rfl

theorem named_iff {name : Text} {m : Text × Json} : [name].contains m.1 = true ↔ m.1 = name := by
  rw [List.contains_iff_mem, List.mem_singleton]

theorem none_named {name : Text} {members : List (Text × Json)} (h : ∀ m ∈ members, m.1 ≠ name) :
    (members.filter fun m => [name].contains m.1) = [] := by
  rw [List.filter_eq_nil_iff]
  intro m hm named
  exact h m hm (named_iff.1 named)

theorem field_absent {name : Text} {members : List (Text × Json)} (h : ∀ m ∈ members, m.1 ≠ name) :
    field? [name] members = some none := by
  rw [field?, none_named h]

/-- The members of an object of which some are left out: the members of the whole one with other
names, among members under names that are not declared, in any order. -/
def LeavesOut (left : List Text) (declared : List (List Text))
    (whole members : List (Text × Json)) : Prop :=
  ∃ others : List (Text × Json), (∀ m ∈ others, m.1 ∉ declared.flatten) ∧
    members.Perm (whole.filter (fun m => m.1 ∉ left) ++ others)

/-- A value where its name is kept, and something else where it is left out. -/
def whereKept {α : Type} (left : List Text) (name : Text) (value otherwise : α) : α :=
  if name ∈ left then otherwise else value

theorem LeavesOut.field {left : List Text} {declared : List (List Text)}
    {whole members : List (Text × Json)} (h : LeavesOut left declared whole members) (name : Text)
    (known : name ∈ declared.flatten) {value : Option Json}
    (given : field? [name] whole = some value) :
    field? [name] members = some (whereKept left name value none) := by
  obtain ⟨others, unknown, perm⟩ := h
  have undeclared : ∀ m ∈ others, m.1 ≠ name := by
    rintro m hm rfl
    exact unknown m hm known
  unfold whereKept
  split
  next out =>
    apply field_absent
    intro m hm
    obtain hm | hm := List.mem_append.1 (perm.subset hm)
    · rintro rfl
      exact of_decide_eq_true (List.mem_filter.1 hm).2 out
    · exact undeclared m hm
  next kept =>
    -- Of the members with this name, none is left out and none is among the others.
    have found := perm.filter fun m => [name].contains m.1
    have all : (whole.filter fun m => [name].contains m.1 && decide (m.1 ∉ left)) =
        whole.filter fun m => [name].contains m.1 := by
      apply List.filter_congr
      intro m _
      rw [Bool.and_eq_left_iff_imp, named_iff, decide_eq_true_eq]
      rintro rfl
      exact kept
    rw [List.filter_append, none_named undeclared, List.append_nil, List.filter_filter, all] at found
    rw [← given]
    exact field_of_named found

theorem with_default_left_out {α : Type} {read? : Json → Option α} {j : Json} {value : α}
    (reads : read? j = some value) (left : List Text) (name : Text) (default : α) :
    withDefault default read? (whereKept left name (some j) none) =
      some (whereKept left name value default) := by
  unfold whereKept
  split
  · rfl
  · exact reads

end Json

open Json

/-! ## Configurations -/

namespace TrackerSettings

def members (s : TrackerSettings) : List (Text × Json) :=
  [("enabled", .bool s.enabled), ("tokenEnv", .text s.tokenEnv), ("apiUrl", .text s.apiUrl)]

def without (s : TrackerSettings) (left : List Text) : TrackerSettings where
  enabled := whereKept left "enabled" s.enabled default.enabled
  tokenEnv := whereKept left "tokenEnv" s.tokenEnv default.tokenEnv
  apiUrl := whereKept left "apiUrl" s.apiUrl default.apiUrl

theorem of_left_out (s : TrackerSettings) {left : List Text} {members : List (Text × Json)}
    (h : LeavesOut left fieldNames s.members members) :
    ofJson? (.record members) = some (s.without left) := by
  have fields : fields? fieldNames (.record members) =
      some [whereKept left "enabled" (some (.bool s.enabled)) none,
        whereKept left "tokenEnv" (some (.text s.tokenEnv)) none,
        whereKept left "apiUrl" (some (.text s.apiUrl)) none] := by
    rw [fields_record]
    simp only [fieldNames, List.mapM_cons, List.mapM_nil, h.field "enabled" (by decide) rfl,
      h.field "tokenEnv" (by decide) rfl, h.field "apiUrl" (by decide) rfl]
    rfl
  rw [ofJson?, fields]
  simp only [with_default_left_out (bool_form.reads _), with_default_left_out (text_form.reads _)]
  rfl

end TrackerSettings

namespace Config

/-- The members of the JSON form, with any value in the place of the tracker's settings. -/
def members (c : Config) (tracker : Json) : List (Text × Json) :=
  ("storiesDir", .text c.storiesDir) :: ("filePrefix", .text c.filePrefix) ::
    ("repository", .text c.repository) :: ("github", tracker) ::
    member "catalog" Catalog.toJson c.ownCatalog

/-- The configuration with defaults for what is left out of it and of the tracker's settings. -/
def without (c : Config) (left leftInTracker : List Text) : Config where
  storiesDir := whereKept left "storiesDir" c.storiesDir default.storiesDir
  filePrefix := whereKept left "filePrefix" c.filePrefix default.filePrefix
  repository := whereKept left "repository" c.repository default.repository
  tracker := whereKept left "github" (c.tracker.without leftInTracker) default.tracker
  ownCatalog := whereKept left "catalog" c.ownCatalog default.ownCatalog

theorem own_catalog_left_out (own : Option Catalog) (left : List Text) (name : Text) :
    nullable Catalog.ofJson? (whereKept left name (own.map Catalog.toJson) none) =
      some (whereKept left name own none) := by
  unfold whereKept
  split
  · rfl
  · exact Catalog.form.optional (fun _ => Json.noConfusion) own

theorem field_of_members (c : Config) (tracker : Json) :
    field? ["storiesDir"] (c.members tracker) = some (some (.text c.storiesDir)) ∧
      field? ["filePrefix"] (c.members tracker) = some (some (.text c.filePrefix)) ∧
      field? ["repository"] (c.members tracker) = some (some (.text c.repository)) ∧
      field? ["github"] (c.members tracker) = some (some tracker) ∧
      field? ["catalog"] (c.members tracker) = some (c.ownCatalog.map Catalog.toJson) := by
  rcases c with ⟨_, _, _, _, _ | catalog⟩ <;> exact ⟨rfl, rfl, rfl, rfl, rfl⟩

theorem of_left_out (c : Config) {left leftInTracker : List Text} {tracker : Json}
    {members : List (Text × Json)}
    (inner : TrackerSettings.ofJson? tracker = some (c.tracker.without leftInTracker))
    (outer : LeavesOut left fieldNames (c.members tracker) members) :
    ofJson? (.record members) = some (c.without left leftInTracker) := by
  obtain ⟨dir, mark, repository, github, own⟩ := c.field_of_members tracker
  have fields : fields? fieldNames (.record members) =
      some [whereKept left "storiesDir" (some (.text c.storiesDir)) none,
        whereKept left "filePrefix" (some (.text c.filePrefix)) none,
        whereKept left "repository" (some (.text c.repository)) none,
        whereKept left "github" (some tracker) none,
        whereKept left "catalog" (c.ownCatalog.map Catalog.toJson) none] := by
    rw [fields_record]
    simp only [fieldNames, List.mapM_cons, List.mapM_nil, outer.field _ (by decide) dir,
      outer.field _ (by decide) mark, outer.field _ (by decide) repository,
      outer.field _ (by decide) github, outer.field _ (by decide) own]
    rfl
  rw [ofJson?, fields]
  simp only [with_default_left_out (text_form.reads _), with_default_left_out inner,
    own_catalog_left_out]
  rfl

theorem of_null_catalog {given nulled : List (Text × Json)}
    (absent : ∀ m ∈ given, m.1 ≠ ("catalog" : Text))
    (perm : nulled.Perm (("catalog", .null) :: given)) :
    ofJson? (.record nulled) = ofJson? (.record given) := by
  have other (name : Text) (h : ("catalog" : Text) ≠ name) :
      field? [name] nulled = field? [name] given := by
    have found := perm.filter fun m => [name].contains m.1
    rw [List.filter_cons, if_neg (mt named_iff.1 h)] at found
    exact field_of_named found
  have null : field? ["catalog"] nulled = some (some .null) := by
    have front : nulled.Perm ([(("catalog" : Text), Json.null)] ++ given) := perm
    have found := front.filter fun m => [("catalog" : Text)].contains m.1
    rw [List.filter_append, none_named absent, List.append_nil] at found
    have alone : field? ["catalog"] [("catalog", .null)] = some (some .null) := rfl
    rw [← alone]
    exact field_of_named found
  rw [ofJson?, ofJson?, fields_record, fields_record]
  simp only [fieldNames, List.mapM_cons, List.mapM_nil, other "storiesDir" (by decide),
    other "filePrefix" (by decide), other "repository" (by decide), other "github" (by decide),
    field_absent absent, null]
  -- Another field may be refused; then both sides are.
  cases field? ["storiesDir"] given with
  | none => rfl
  | some dir =>
    cases field? ["filePrefix"] given with
    | none => rfl
    | some mark =>
      cases field? ["repository"] given with
      | none => rfl
      | some repository => cases field? ["github"] given <;> rfl

/-! ## Configurations that are kept -/

/-- Whether the project keeps its configuration as a text of an object with these members. -/
def Written (storage : Storage) (project : Text) (members : List (Text × Json)) : Prop :=
  ∃ content : Text, storage.read (path project) = .ok content ∧
    parse? content = some (.record members)

theorem load_written {storage : Storage} {project : Text} {members : List (Text × Json)}
    (written : Written storage project members) {c : Config}
    (reads : ofJson? (.record members) = some c) : load storage project = .ok c := by
  obtain ⟨content, kept, spelled⟩ := written
  rw [load, kept]
  simp only [decode, spelled, reads]

theorem load_written_congr {storage other : Storage} {project : Text}
    {members given : List (Text × Json)} (written : Written storage project members)
    (written_other : Written other project given)
    (alike : ofJson? (.record members) = ofJson? (.record given)) :
    load storage project = load other project := by
  obtain ⟨content, kept, spelled⟩ := written
  obtain ⟨content', kept', spelled'⟩ := written_other
  rw [load, load, kept, kept']
  simp only [decode, spelled, spelled', alike]

theorem written_rendered {storage : Storage} {project : Text} {members : List (Text × Json)}
    {l : Layout} (blank : l.Blank) (plain : ∀ m ∈ members, Plain m.2)
    (kept : storage.read (path project) = .ok ((Json.record members).render l)) :
    Written storage project members :=
  ⟨_, kept, parse_render blank (record_plain plain)⟩

/-- A text with some members of a configuration's JSON form, and of the tracker's settings in it, is
loaded as that configuration with the defaults in the place of exactly what is left out. The order
of the members plays no part, nor do members under names that are not declared. So an object without
members is loaded as no file is, and a catalog that is null is loaded as none. -/
theorem load_partial (c : Config) {left leftInTracker : List Text}
    {members trackerMembers : List (Text × Json)}
    (inner : LeavesOut leftInTracker TrackerSettings.fieldNames c.tracker.members trackerMembers)
    (outer : LeavesOut left fieldNames (c.members (.record trackerMembers)) members)
    (storage : Storage) (project : Text) :
    c.toJson = .record (c.members (.record c.tracker.members)) ∧
    (Written storage project members →
      load storage project = .ok (c.without left leftInTracker)) ∧
    (∀ l : Layout, l.Blank → (∀ m ∈ members, Plain m.2) →
      storage.read (path project) = .ok ((Json.record members).render l) →
        load storage project = .ok (c.without left leftInTracker)) ∧
    (Written storage project [] → ∀ other : Storage,
      other.read (path project) = .error .missing → load storage project = load other project) ∧
    ∀ given nulled : List (Text × Json), (∀ m ∈ given, m.1 ≠ ("catalog" : Text)) →
      nulled.Perm (("catalog", .null) :: given) → Written storage project nulled →
        ∀ other : Storage, Written other project given →
          load storage project = load other project := by
  have reads := c.of_left_out (c.tracker.of_left_out inner) outer
  refine ⟨rfl, ?_, ?_, ?_, ?_⟩
  · intro written
    exact load_written written reads
  · intro l blank plain kept
    exact load_written (written_rendered blank plain kept) reads
  · intro written other missing
    have empty : ofJson? (.record []) = some default := rfl
    rw [load_written written empty, load, missing]
  · intro given nulled absent perm written other written_other
    exact load_written_congr written written_other (of_null_catalog absent perm)

/-- Left out are the directory, the catalog and the tracker's address; the rest is out of order,
among names that say nothing. -/
theorem load_partial_mixed :
    let c : Config := ⟨"s", "P", "o/n", ⟨true, "T", "u"⟩, some Catalog.empty⟩
    let tracker : List (Text × Json) :=
      [("x", .number "-1.5e3"), ("tokenEnv", .text "T"), ("enabled", .bool true)]
    let members : List (Text × Json) :=
      [("y", .string none), ("github", .record tracker), ("repository", .text "o/n"),
        ("filePrefix", .text "P")]
    let storage : Storage :=
      ⟨fun _ => .error .noDirectory, fun _ => .ok ((Json.record members).render Layout.compact)⟩
    LeavesOut ["apiUrl"] TrackerSettings.fieldNames c.tracker.members tracker ∧
      LeavesOut ["storiesDir", "catalog"] fieldNames (c.members (.record tracker)) members ∧
      Layout.compact.Blank ∧ (∀ m ∈ members, Plain m.2) ∧
      load storage "p" = .ok ⟨"docs/user-stories", "P", "o/n",
        ⟨true, "T", "https://api.github.com"⟩, none⟩ := by
  intro c tracker members storage
  have inner : LeavesOut ["apiUrl"] TrackerSettings.fieldNames c.tracker.members tracker :=
    ⟨[("x", .number "-1.5e3")], by decide, tracker.reverse_perm.symm⟩
  have outer : LeavesOut ["storiesDir", "catalog"] fieldNames (c.members (.record tracker)) members :=
    ⟨[("y", .string none)], by decide, members.reverse_perm.symm⟩
  have digit {d : Char} (h : d.isDigit = true) : IsDigits [d] :=
    ⟨List.cons_ne_nil d [], List.forall_mem_singleton.2 h⟩
  have number : IsNumber "-1.5e3" :=
    .negative (w := ['1']) (f := ['.', '5']) (e := ['e', '3']) ⟨digit rfl, by decide⟩
      (.inr ⟨['5'], digit rfl, rfl⟩) (.inr ⟨'e', [], ['3'], .inl rfl, .inl rfl, digit rfl, rfl⟩)
  have plain : ∀ m ∈ members, Plain m.2 := by
    have settings : ∀ m ∈ tracker, Plain m.2 := by
      simp only [tracker, List.forall_mem_cons]
      exact ⟨.number number, .string _, .bool _, List.forall_mem_nil _⟩
    simp only [members, List.forall_mem_cons]
    exact ⟨.string _, record_plain settings, .string _, .string _, List.forall_mem_nil _⟩
  exact ⟨inner, outer, Layout.compact_blank, plain,
    (load_partial c inner outer storage "p").2.2.1 _ Layout.compact_blank plain rfl⟩

end Config

end Backlog

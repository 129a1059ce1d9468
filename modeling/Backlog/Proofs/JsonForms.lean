import Backlog.Config.Json
import Backlog.Draft.Json
import Backlog.Proofs.JsonText
import Backlog.Publisher.Json
import Backlog.Story.Json
/-!
Data read back from the JSON that it was written as.

- `Json.fields_record`: the fields of a record, by name;
- `Json.decode_render`: what a reader makes of a value, it makes of its text;
- `Json.Form`: a way to write and a way to read that undoes it;
- `Draft.decode_toJson`: a draft, all but the identifier of its story;
- `forms_read_back`: all data that is kept or sent, as text in any layout.
-/
namespace Backlog
set_option autoImplicit false

namespace Json

variable {α : Type}

theorem record_plain {members : List (Text × Json)} (h : ∀ m ∈ members, Plain m.2) :
    Plain (.record members) := by
  refine .object fun m hm => ?_
  obtain ⟨member, inside, rfl⟩ := List.mem_map.1 hm
  exact h member inside

theorem array_plain {write : α → Json} (h : ∀ a, Plain (write a)) (as : List α) :
    Plain (.array (as.map write)) := by
  refine .array fun x hx => ?_
  obtain ⟨a, -, rfl⟩ := List.mem_map.1 hx
  exact h a

theorem texts_plain (ts : List Text) : Plain (ofTexts ts) := array_plain (fun t => .string (some t)) ts

theorem texts_of_texts (ts : List Text) : texts? (ofTexts ts) = some ts := by
  unfold texts? ofTexts list?
  induction ts with
  | nil => rfl
  | cons t ts ih =>
    simp only [List.map_cons, List.mapM_cons] at ih ⊢
    rw [ih]
    rfl

theorem pairs_written {write : α → Json} {read? : Json → Option α}
    (reads : ∀ a, read? (write a) = some a) (entries : List (Text × α)) :
    pairs? read? (.record (entries.map fun e => (e.1, write e.2))) = some entries := by
  unfold pairs? record
  induction entries with
  | nil => rfl
  | cons e entries ih =>
    simp only [List.map_cons, List.mapM_cons, reads] at ih ⊢
    rw [ih]
    rfl

theorem pairs_record (members : List (Text × Json)) :
    pairs? some (.record members) = some members := by
  have h := @pairs_written Json id some (fun _ => rfl) members
  simpa using h

theorem fields_record (declared : List (List Text)) (members : List (Text × Json)) :
    fields? declared (.record members) = declared.mapM (field? · members) := by
  have pairs := pairs_record members
  rw [record] at pairs ⊢
  rw [fields?, pairs]
  rfl

/-- What a reader makes of a plain value, it makes of the text of that value. -/
theorem decode_render {l : Layout} (blank : l.Blank) {j : Json} (plain : Plain j)
    {read? : Json → Option α} {a : α} (reads : read? j = some a) :
    decode read? (render l j) = .ok a := by
  rw [decode, parse_render blank plain]
  simp only [reads]

/-! ## Forms -/

/-- A way to write data and a way to read it, which gives back what was written. -/
structure Form (write : α → Json) (read? : Json → Option α) : Prop where
  plain : ∀ a : α, Plain (write a)
  reads : ∀ a : α, read? (write a) = some a

theorem text_form : Form text text? := ⟨fun t => .string (some t), fun _ => rfl⟩

theorem bool_form : Form .bool bool? := ⟨.bool, fun _ => rfl⟩

theorem texts_form : Form ofTexts texts? := ⟨texts_plain, texts_of_texts⟩

theorem word32_form : Form (fun n => .natural n.toNat) toWord32? :=
  ⟨fun n => .natural n.toNat, word32_of_toNat⟩

theorem word64_form : Form (fun n => .natural n.toNat) toWord64? :=
  ⟨fun n => .natural n.toNat, word64_of_toNat⟩

variable {write : α → Json} {read? : Json → Option α}

theorem Form.dict (form : Form write read?) : Form (ofDict write) (dict? read?) := by
  constructor
  · intro d
    refine record_plain fun m hm => ?_
    obtain ⟨e, -, rfl⟩ := List.mem_map.1 hm
    exact form.plain e.2
  · intro d
    have read := pairs_written form.reads d.entries
    rw [dict?, ofDict, read, Option.map_some, Dict.ofList_entries]

/-- A field that is left out when absent is read as it was, if no value is written as null. -/
theorem Form.optional (form : Form write read?) (not_null : ∀ a, write a ≠ .null) (o : Option α) :
    nullable read? (o.map write) = some o := by
  cases o with
  | none => rfl
  | some a =>
    have present : nullable read? (some (write a)) = (read? (write a)).map some := by
      cases h : write a with
      | null => exact absurd h (not_null a)
      | _ => rfl
    rw [Option.map_some, present, form.reads]
    rfl

theorem Form.member_plain (form : Form write read?) (name : Text) (o : Option α) :
    ∀ m ∈ member name write o, Plain m.2 := by
  intro m hm
  obtain ⟨a, -, rfl⟩ := List.mem_map.1 hm
  exact form.plain a

/-- What was written in a form is read back from its text. -/
theorem Form.decode (form : Form write read?) {l : Layout} (blank : l.Blank) (a : α) :
    decode read? ((write a).render l) = .ok a :=
  decode_render blank (form.plain a) (form.reads a)

end Json

namespace Draft

open Json

theorem toJson_plain (d : Draft) : Plain d.toJson := by
  refine record_plain ?_
  simp only [List.forall_mem_cons]
  exact ⟨.string _, .string _, texts_form.plain _, List.forall_mem_nil _⟩

theorem of_json_toJson (d : Draft) : ofJson? d.toJson = some { d with storyId := [] } := by
  have fields : fields? fieldNames d.toJson =
      some [some (.text d.title), some (.text d.body), some (ofTexts d.labels)] := by
    rw [toJson, fields_record]
    rfl
  rw [ofJson?, fields]
  simp [required, text_form.reads, texts_form.reads]

/-- A draft is read back from its text, all but the identifier of its story. -/
theorem decode_toJson {l : Layout} (blank : l.Blank) (d : Draft) :
    decode ofJson? (d.toJson.render l) = .ok { d with storyId := [] } :=
  decode_render blank d.toJson_plain d.of_json_toJson

end Draft

open Json

theorem Metadata.form : Form Metadata.toJson Metadata.ofJson? := by
  constructor
  · intro m
    refine record_plain ?_
    rw [List.forall_mem_append, List.forall_mem_append]
    exact ⟨⟨word32_form.member_plain _ _, word32_form.member_plain _ _⟩, text_form.member_plain _ _⟩
  · intro m
    have fields : fields? Metadata.fieldNames m.toJson =
        some [m.sprint.map fun n => .natural n.toNat, m.storyPoints.map fun n => .natural n.toNat,
          m.category.map text] := by
      rw [Metadata.toJson, fields_record]
      rcases m with ⟨_ | sprint, _ | points, _ | category⟩ <;> rfl
    have sprint := word32_form.optional (fun _ => Json.noConfusion) m.sprint
    have points := word32_form.optional (fun _ => Json.noConfusion) m.storyPoints
    have category := text_form.optional (fun _ => Json.noConfusion) m.category
    rw [Metadata.ofJson?, fields]
    simp [sprint, points, category]

theorem Catalog.form : Form Catalog.toJson Catalog.ofJson? := by
  constructor
  · intro c
    refine record_plain ?_
    simp only [List.forall_mem_cons]
    exact ⟨texts_form.plain _, Metadata.form.dict.plain _, List.forall_mem_nil _⟩
  · intro c
    have fields : fields? Catalog.fieldNames c.toJson =
        some [some (ofTexts c.completed.keys), some (ofDict Metadata.toJson c.plans)] := by
      rw [Catalog.toJson, fields_record]
      rfl
    rw [Catalog.ofJson?, fields]
    simp [withDefault, texts_form.reads, Metadata.form.dict.reads, TextSet.ofList_keys]

theorem TrackerSettings.form : Form TrackerSettings.toJson TrackerSettings.ofJson? := by
  constructor
  · intro s
    refine record_plain ?_
    simp only [List.forall_mem_cons]
    exact ⟨.bool _, .string _, .string _, List.forall_mem_nil _⟩
  · intro s
    have fields : fields? TrackerSettings.fieldNames s.toJson =
        some [some (.bool s.enabled), some (.text s.tokenEnv), some (.text s.apiUrl)] := by
      rw [TrackerSettings.toJson, fields_record]
      rfl
    rw [TrackerSettings.ofJson?, fields]
    simp [withDefault, bool_form.reads, text_form.reads]

theorem Config.form : Form Config.toJson Config.ofJson? := by
  constructor
  · intro c
    refine record_plain ?_
    simp only [List.forall_mem_cons]
    exact ⟨.string _, .string _, .string _, TrackerSettings.form.plain _,
      Catalog.form.member_plain _ _⟩
  · intro c
    have fields : fields? Config.fieldNames c.toJson =
        some [some (.text c.storiesDir), some (.text c.filePrefix), some (.text c.repository),
          some c.tracker.toJson, c.ownCatalog.map Catalog.toJson] := by
      rw [Config.toJson, fields_record]
      rcases c with ⟨_, _, _, _, _ | catalog⟩ <;> rfl
    have own := Catalog.form.optional (fun _ => Json.noConfusion) c.ownCatalog
    rw [Config.ofJson?, fields]
    simp [withDefault, text_form.reads, TrackerSettings.form.reads, own]

/-- A configuration that is kept in full is loaded as it is, whatever the layout. -/
theorem Config.load_render {storage : Storage} {project : Text} {config : Config} {l : Layout}
    (blank : l.Blank) (kept : storage.read (Config.path project) = .ok (config.toJson.render l)) :
    Config.load storage project = .ok config := by
  rw [Config.load, kept]
  dsimp only
  rw [Config.form.decode blank]

theorem Issue.form : Form Issue.toJson Issue.ofJson? := by
  constructor
  · intro i
    refine record_plain ?_
    simp only [List.forall_mem_cons]
    exact ⟨.natural _, .string _, List.forall_mem_nil _⟩
  · intro i
    have fields : fields? Issue.fieldNames i.toJson =
        some [some (.natural i.number.toNat), some (.text i.url)] := by
      rw [Issue.toJson, fields_record]
      rfl
    rw [Issue.ofJson?, fields]
    simp [required, word64_form.reads, text_form.reads]

namespace Story

theorem sections_of_pairs (texts : Section → Option Text) (ss : List Section) :
    sectionsOfPairs? (ss.flatMap fun s => (texts s).toList.map fun t => (s.key, t)) =
      some fun s => if s ∈ ss then texts s else none := by
  induction ss with
  | nil => rfl
  | cons s ss ih =>
    rw [List.flatMap_cons]
    cases stored : texts s with
    | none =>
      have same : (fun other => if other ∈ ss then texts other else none) =
          fun other => if other ∈ s :: ss then texts other else none := by
        funext other
        by_cases e : other = s
        · simp [e, stored]
        · simp [e]
      rw [← same, ← ih]
      rfl
    | some t =>
      have later : sectionsOfPairs? ((s.key, t) :: ss.flatMap fun s =>
          (texts s).toList.map fun t => (s.key, t)) = some fun other =>
            (if other ∈ ss then texts other else none) <|> if other = s then some t else none := by
        rw [sectionsOfPairs?, Section.of_key_key, ih]
        rfl
      refine later.trans (congrArg some (funext fun other => ?_))
      by_cases e : other = s
      · by_cases m : s ∈ ss <;> simp [e, m, stored]
      · by_cases m : other ∈ ss <;> simp [e, m]

theorem sections_of_json (story : Story) :
    sectionsOfJson? story.sectionsToJson = some story.sections := by
  have members : (Section.all.flatMap fun s => member s.key .text (story.sections s)) =
      (Section.all.flatMap fun s => (story.sections s).toList.map fun t => (s.key, t)).map
        fun e => (e.1, .text e.2) := by
    rw [List.map_flatMap]
    simp [member, Function.comp_def]
  have everywhere :
      (fun s => if s ∈ Section.all then story.sections s else none) = story.sections := by
    funext s
    exact if_pos s.mem_all
  rw [sectionsOfJson?, sectionsToJson, members, pairs_written text_form.reads, Option.bind_some,
    sections_of_pairs, everywhere]

theorem form : Form Story.toJson Story.ofJson? := by
  constructor
  · intro story
    have sections : Plain story.sectionsToJson := by
      refine record_plain fun e he => ?_
      obtain ⟨s, -, he⟩ := List.mem_flatMap.1 he
      exact text_form.member_plain _ _ e he
    refine record_plain ?_
    simp only [List.forall_mem_cons]
    exact ⟨.string _, .string _, .string _, .string _, .string _, .string _, sections,
      List.forall_mem_nil _⟩
  · intro story
    have fields : fields? Story.fieldNames story.toJson =
        some [some (.text story.id), some (.text story.title), some (.text story.status),
          some (.text story.category), some (.text story.effort), some (.text story.sprint),
          some story.sectionsToJson] := by
      rw [toJson, fields_record]
      rfl
    rw [Story.ofJson?, fields]
    simp [required, withDefault, text_form.reads, sections_of_json]

end Story

/-! ## All data that is kept or sent -/

theorem Catalog.empty_ne_builtin : Catalog.empty ≠ Catalog.builtin := by
  intro same
  have listed : Catalog.empty.isComplete "US-001" = Catalog.builtin.isComplete "US-001" := by
    rw [same]
  exact absurd listed (by decide)

/-- Plans, catalogs, stories, configurations and issues are read back from their text as they were,
and drafts all but the identifier of their story. A sprint of zero is not written as an absent one,
and an own catalog without entries is not read as the built-in one. -/
theorem forms_read_back {l : Layout} (blank : l.Blank) :
    (∀ m : Metadata, decode Metadata.ofJson? (m.toJson.render l) = .ok m) ∧
    (∀ c : Catalog, decode Catalog.ofJson? (c.toJson.render l) = .ok c) ∧
    (∀ s : Story, decode Story.ofJson? (s.toJson.render l) = .ok s) ∧
    (∀ c : Config, decode Config.ofJson? (c.toJson.render l) = .ok c) ∧
    (∀ i : Issue, decode Issue.ofJson? (i.toJson.render l) = .ok i) ∧
    (∀ d : Draft, decode Draft.ofJson? (d.toJson.render l) = .ok { d with storyId := [] }) ∧
    (∀ m : Metadata, { m with sprint := some 0 }.toJson.render l ≠
      { m with sprint := none }.toJson.render l) ∧
    ∀ c : Config, ∃ read : Config,
      decode Config.ofJson? ({ c with ownCatalog := some Catalog.empty }.toJson.render l) = .ok read ∧
        read.catalog = Catalog.empty ∧ read.catalog ≠ Catalog.builtin := by
  refine ⟨Metadata.form.decode blank, Catalog.form.decode blank, Story.form.decode blank,
    Config.form.decode blank, Issue.form.decode blank, Draft.decode_toJson blank, ?_, ?_⟩
  · intro m same
    have zero := Metadata.form.decode blank { m with sprint := some 0 }
    have absent := Metadata.form.decode blank { m with sprint := none }
    rw [same, absent] at zero
    exact absurd (Except.ok.inj zero) (by simp)
  · intro c
    exact ⟨_, Config.form.decode blank _, rfl, Catalog.empty_ne_builtin⟩

/-- Both layouts, with texts that need escapes, a stored empty text and the greatest number. -/
theorem forms_read_back_escaped :
    let story := { Story.blank "US-\"1\"" with
      title := "\\ \x00\t\x1f😀", sections := fun s => if s = .notes then some [] else none }
    let issue : Issue := ⟨18446744073709551615, "/\r\n"⟩
    Layout.indented.Blank ∧ Layout.compact.Blank ∧
      decode Story.ofJson? (story.toJson.render Layout.indented) = .ok story ∧
      decode Issue.ofJson? (issue.toJson.render Layout.compact) = .ok issue := by
  intro story issue
  exact ⟨Layout.indented_blank, Layout.compact_blank,
    (forms_read_back Layout.indented_blank).2.2.1 story,
    (forms_read_back Layout.compact_blank).2.2.2.2.1 issue⟩

end Backlog

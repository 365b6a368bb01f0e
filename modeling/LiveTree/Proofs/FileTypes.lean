import LiveTree.Grammar.Registry
import LiveTree.Proofs.Settings

/-!
# Which language a file type belongs to

Languages may list the same file type.  A table of file types is filled language by language, so of
several languages the last one has the file type.  The builtin languages that the settings do not
mention are appended to those they give; a file type that both sides list therefore goes to the
builtin language, and one that no such language lists to the last language given.

## Key results

- `Registry.find?_fileTypeTable`: the language that is looked for is the one in the table
- `Registry.configured_type_wins_iff`: whose a file type is that the settings list
- `Registry.configured_type_lost`: settings that do not get what they ask for
-/

namespace LiveTree

/-- A language lists a file type, in whichever case. -/
def LanguageConfig.Lists (language : LanguageConfig) (fileType : String) : Prop :=
  Registry.foldCase fileType ∈ language.fileTypes.map Registry.foldCase

/-- Whether a language lists a file type can be tried out. -/
instance (language : LanguageConfig) (fileType : String) : Decidable (language.Lists fileType) :=
  inferInstanceAs (Decidable (_ ∈ _))

namespace Registry

/-! ## The table of file types -/

/-- Enters the file types of a language, each in place of any earlier entry. -/
def enterTypes (table : Table String) (language : LanguageConfig) : Table String :=
  language.fileTypes.foldl (fun table fileType => table.insert (foldCase fileType) language.id) table

/-- The table of the file types of several languages, entered one after the other. -/
def fileTypeTable (languages : List LanguageConfig) : Table String :=
  languages.foldl enterTypes .empty

/-- When one language enters its file types, they are its own, and all others belong to whom they
    did. -/
theorem find?_foldl_insert (table : Table String) (fileTypes : List String) (id fileType : String) :
    (fileTypes.foldl (fun table entered => table.insert (foldCase entered) id) table).find?
        (foldCase fileType) =
      if foldCase fileType ∈ fileTypes.map foldCase then some id
      else table.find? (foldCase fileType) := by
  -- By induction on the file types, with the table free: a later entry takes the place of an
  -- earlier one.
  induction fileTypes generalizing table with
  | nil => simp
  | cons first rest ih =>
    rw [List.foldl_cons, ih, Table.find?_insert, List.map_cons]
    by_cases later : foldCase fileType ∈ rest.map foldCase
    · rw [if_pos later, if_pos (List.mem_cons_of_mem _ later)]
    · simp only [later, List.mem_cons, or_false, if_false]

/-- The same, told by what the language lists. -/
theorem find?_enterTypes (table : Table String) (language : LanguageConfig) (fileType : String) :
    (enterTypes table language).find? (foldCase fileType) =
      if language.Lists fileType then some language.id else table.find? (foldCase fileType) :=
  find?_foldl_insert table language.fileTypes language.id fileType

/-- What is in the table belongs to the last language that lists it. -/
theorem find?_foldl_enterTypes (table : Table String) (languages : List LanguageConfig)
    (fileType : String) :
    (languages.foldl enterTypes table).find? (foldCase fileType) =
      ((languages.reverse.find? fun language => decide (language.Lists fileType)).map (·.id)).or
        (table.find? (foldCase fileType)) := by
  -- By induction on the languages, with the table free: the last one that lists the type is looked
  -- for first.
  induction languages generalizing table with
  | nil => rfl
  | cons first rest ih =>
    rw [List.foldl_cons, ih, find?_enterTypes, List.reverse_cons, List.find?_append,
      List.find?_singleton]
    cases rest.reverse.find? fun language => decide (language.Lists fileType) with
    | some language => rfl
    | none =>
      by_cases lists : first.Lists fileType
      · simp [lists]
      · simp [lists]

/-- The language that is looked for is the one in the table. -/
theorem find?_fileTypeTable (registry : Registry) {path fileType : String}
    (typed : Path.extension? path = some fileType) :
    registry.languageForPath? path =
      (fileTypeTable registry.languages).find? (foldCase fileType) := by
  unfold fileTypeTable
  -- The table starts out empty, so what is in it comes of the languages.
  rw [find?_foldl_enterTypes, Table.find?_empty, Option.or_none]
  have same : ∀ language : LanguageConfig,
      (language.fileTypes.map foldCase).contains (foldCase fileType) =
        decide (language.Lists fileType) := fun language => List.contains_eq_mem _ _
  simp only [languageForPath?, typed, Option.bind_eq_bind, Option.bind_some, same]
  rw [Option.map_eq_bind]
  rfl

/-! ## Whose it is -/

variable {languages : List LanguageConfig} {fileType : String}

/-- The language is the last of several that lists a file type. -/
def LastToList (languages : List LanguageConfig) (fileType : String) (language : LanguageConfig) :
    Prop :=
  ∃ before after, languages = before ++ language :: after ∧ language.Lists fileType ∧
    ∀ later ∈ after, ¬ later.Lists fileType

/-- The last language to list a file type is the first one to do so from behind. -/
theorem lastToList_iff {language : LanguageConfig} :
    LastToList languages fileType language ↔
      languages.reverse.find? (fun other => decide (other.Lists fileType)) = some language := by
  rw [List.find?_eq_some_iff_append]
  constructor
  · rintro ⟨before, after, rfl, lists, others⟩
    refine ⟨by simpa using lists, after.reverse, before.reverse, by simp, ?_⟩
    intro later among
    simpa using others later (List.mem_reverse.mp among)
  · rintro ⟨lists, after, before, reversed, others⟩
    refine ⟨before.reverse, after.reverse, ?_, by simpa using lists, ?_⟩
    · simpa using congrArg List.reverse reversed
    · intro later among
      simpa using others later (List.mem_reverse.mp among)

/-- If any language lists a file type, one is the last to do so. -/
theorem exists_lastToList (listed : ∃ language ∈ languages, language.Lists fileType) :
    ∃ language, LastToList languages fileType language := by
  obtain ⟨some_language, among, lists⟩ := listed
  have found : (languages.reverse.find? fun other => decide (other.Lists fileType)).isSome := by
    rw [List.find?_isSome]
    exact ⟨some_language, List.mem_reverse.mpr among, by simpa using lists⟩
  obtain ⟨language, last⟩ := Option.isSome_iff_exists.mp found
  exact ⟨language, lastToList_iff.mpr last⟩

/-- No two builtin languages list the same file type. -/
theorem builtin_of_lists : ∀ first ∈ LanguageConfig.builtins, ∀ second ∈ LanguageConfig.builtins,
    first.Lists fileType → second.Lists fileType → first = second := by
  have apart : ∀ first ∈ LanguageConfig.builtins, ∀ second ∈ LanguageConfig.builtins,
      ∀ folded ∈ first.fileTypes.map foldCase, folded ∈ second.fileTypes.map foldCase →
        first = second := by decide
  exact fun first left second right lists also => apart first left second right _ lists also

variable {front back : List LanguageConfig} {language : LanguageConfig}

/-- The last language to list a file type is among the languages. -/
theorem LastToList.mem (last : LastToList languages fileType language) : language ∈ languages := by
  obtain ⟨before, after, rfl, -⟩ := last
  simp

/-- And it does list the file type. -/
theorem LastToList.lists (last : LastToList languages fileType language) :
    language.Lists fileType := by
  obtain ⟨before, after, -, lists, -⟩ := last
  exact lists

/-- Appended languages come after those that were there, so they have what they list. -/
theorem LastToList.behind (last : LastToList back fileType language) :
    LastToList (front ++ back) fileType language := by
  obtain ⟨before, after, rfl, lists, others⟩ := last
  exact ⟨front ++ before, after, by simp, lists, others⟩

/-- What no appended language lists stays where it was. -/
theorem LastToList.append (last : LastToList front fileType language)
    (unlisted : ∀ later ∈ back, ¬ later.Lists fileType) :
    LastToList (front ++ back) fileType language := by
  obtain ⟨before, after, rfl, lists, others⟩ := last
  refine ⟨before, after ++ back, by simp, lists, ?_⟩
  intro later among
  rcases List.mem_append.mp among with among | among
  · exact others later among
  · exact unlisted later among

/-- A path's language is the last one to list its file type. -/
theorem languageForPath?_of_last {registry : Registry} {path : String} {language : LanguageConfig}
    (typed : Path.extension? path = some fileType)
    (last : LastToList registry.languages fileType language) :
    registry.languageForPath? path = some language.id := by
  rw [find?_fileTypeTable registry typed, fileTypeTable, find?_foldl_enterTypes,
    lastToList_iff.mp last]
  rfl

/-- A file type that the settings list belongs to the last language given that lists it, unless a
    builtin language that is not mentioned lists it too: appended behind those given, that one has
    it. -/
theorem configured_type_wins_iff {text : List Char} {json : Json} {config settings : Config}
    {path : String} (dataHome : String) (reads : Json.read? text = some json)
    (holds : Config.ofJson? json = some config) (accepted : Config.parse text = .ok settings)
    (typed : Path.extension? path = some fileType)
    (listed : ∃ language ∈ config.languages, language.Lists fileType) :
    (ofConfig settings dataHome).languageForPath? path =
        (fileTypeTable settings.languages).find? (foldCase fileType) ∧
      ∃ given ∈ config.languages, LastToList config.languages fileType given ∧
        ((ofConfig settings dataHome).languageForPath? path = some given.id ↔
          ∀ builtin ∈ LanguageConfig.builtins, builtin.id ∉ config.ids →
            ¬ builtin.Lists fileType) ∧
        ∀ builtin ∈ LanguageConfig.builtins, builtin.id ∉ config.ids → builtin.Lists fileType →
          (ofConfig settings dataHome).languageForPath? path = some builtin.id := by
  -- Settings that are accepted have been completed: no id is given twice.
  have completes : config.Completes settings := by
    have parsed : Config.parse text = config.accept := by
      simp only [Config.parse, reads, Config.decode, holds]
    rw [parsed] at accepted
    obtain ⟨rfl, -, distinct⟩ := (Config.accept_eq_ok_iff config settings).mp accepted
    exact .of_nodup distinct
  have languages : (ofConfig settings dataHome).languages = config.languages ++
      LanguageConfig.builtins.filter fun language => language.id ∉ config.ids := by
    rw [ofConfig, completes.appended]
  have appended : ∀ builtin, (builtin ∈ LanguageConfig.builtins.filter fun language =>
      language.id ∉ config.ids) ↔ builtin ∈ LanguageConfig.builtins ∧ builtin.id ∉ config.ids := by
    intro builtin
    rw [List.mem_filter]
    simp
  -- A builtin language that is appended and lists the file type is the last one to do so.
  have lost : ∀ builtin ∈ LanguageConfig.builtins, builtin.id ∉ config.ids →
      builtin.Lists fileType →
        (ofConfig settings dataHome).languageForPath? path = some builtin.id := by
    intro builtin among fresh lists
    obtain ⟨winner, last⟩ :=
      exists_lastToList ⟨builtin, (appended builtin).mpr ⟨among, fresh⟩, lists⟩
    have same : winner = builtin := by
      have builtin := ((appended winner).mp last.mem).1
      exact builtin_of_lists winner builtin _ among last.lists lists
    subst same
    refine languageForPath?_of_last typed ?_
    rw [languages]
    exact last.behind
  obtain ⟨given, last⟩ := exists_lastToList listed
  refine ⟨find?_fileTypeTable _ typed, given, last.mem, last, ⟨?_, ?_⟩, lost⟩
  -- If an unmentioned builtin language listed the type, the path would be in that language.
  · intro won builtin among fresh lists
    have same : some given.id = some builtin.id := won.symm.trans (lost builtin among fresh lists)
    have same : given.id = builtin.id := Option.some.inj same
    exact fresh (same ▸ List.mem_map_of_mem last.mem)
  -- Otherwise the last language given that lists the type is the last one of all.
  · intro unlisted
    refine languageForPath?_of_last typed ?_
    rw [languages]
    refine last.append fun later among => ?_
    obtain ⟨builtin, fresh⟩ := (appended later).mp among
    exact unlisted later builtin fresh

/-- The file type of a script is found by its name. -/
theorem extension?_script : Path.extension? "a.js" = some "js" := by
  have whole : "a.js".splitOn "/" = ["a.js"] := by
    rw [String.splitOn, if_neg (by decide)]
    iterate 4 rw [String.splitOnAux, if_neg (by decide), if_neg (by decide)]
    rw [String.splitOnAux, if_pos (by decide)]
    decide
  unfold Path.extension? Path.fileName? Path.components
  rw [whole]
  decide

/-- Settings that give the file type of a builtin language to another one, and mention both. -/
def reassigned : List Char :=
  ['{', '"', 'l', 'a', 'n', 'g', 'u', 'a', 'g', 'e', 's', '"', ':', '[', '{', '"', 'i', 'd', '"',
    ':', '"', 't', 's', '"', ',', '"', 'f', 'i', 'l', 'e', '_', 't', 'y', 'p', 'e', 's', '"', ':',
    '[', '"', 'J', 'S', '"', ']', '}', ',', '{', '"', 'i', 'd', '"', ':', '"', 'j', 'a', 'v', 'a',
    's', 'c', 'r', 'i', 'p', 't', '"', '}', ']', '}']

/-- Since both languages are mentioned, the one that lists the type gets it. -/
theorem configured_type_wins_iff_reassigned :
    ∃ settings, Config.parse reassigned = .ok settings ∧
      (ofConfig settings "").languageForPath? "a.js" = some "ts" := by
  have reads : Json.read? reassigned = some (.object [(some "languages", .array [
      .object [(some "id", .str "ts"), (some "file_types", .array [.str "JS"])],
      .object [(some "id", .str "javascript")]])]) := by rfl
  have holds : Config.ofJson? (.object [(some "languages", .array [
      .object [(some "id", .str "ts"), (some "file_types", .array [.str "JS"])],
      .object [(some "id", .str "javascript")]])]) =
        some { languages := [{ id := "ts", fileTypes := ["JS"] }, { id := "javascript" }] } := by rfl
  have accepted : Config.parse reassigned = .ok (Config.withBuiltins
      { languages := [{ id := "ts", fileTypes := ["JS"] }, { id := "javascript" }] }) := by rfl
  obtain ⟨-, given, among, last, won, -⟩ :=
    configured_type_wins_iff "" reads holds accepted extension?_script (by decide)
  have own : ∀ given ∈ [{ id := "ts", fileTypes := ["JS"] }, { id := "javascript" }],
      LanguageConfig.Lists given "js" → given.id = "ts" := by decide
  refine ⟨_, accepted, ?_⟩
  rw [won.mpr (by decide), own given among last.lists]

/-- Settings that give the file type of a builtin language to another one, and mention only that. -/
def contested : List Char :=
  ['{', '"', 'l', 'a', 'n', 'g', 'u', 'a', 'g', 'e', 's', '"', ':', '[', '{', '"', 'i', 'd', '"',
    ':', '"', 't', 's', '"', ',', '"', 'f', 'i', 'l', 'e', '_', 't', 'y', 'p', 'e', 's', '"', ':',
    '[', '"', 'J', 'S', '"', ']', '}', ']', '}']

/-- A language that was given does not have the file type that it lists, for a builtin language that
    was not given has it. -/
theorem configured_type_lost :
    Config.parse contested =
        .ok (Config.withBuiltins { languages := [{ id := "ts", fileTypes := ["JS"] }] }) ∧
      LanguageConfig.Lists { id := "ts", fileTypes := ["JS"] } "js" ∧
      (ofConfig (Config.withBuiltins { languages := [{ id := "ts", fileTypes := ["JS"] }] })
        "").languageForPath? "a.js" = some "javascript" := by
  have last : LastToList
      (Config.withBuiltins { languages := [{ id := "ts", fileTypes := ["JS"] }] }).languages "js"
      LanguageConfig.builtins[0] :=
    ⟨[{ id := "ts", fileTypes := ["JS"] }], LanguageConfig.builtins.tail, by decide, by decide,
      by decide⟩
  have found : (ofConfig (Config.withBuiltins { languages := [{ id := "ts", fileTypes := ["JS"] }] })
      "").languageForPath? "a.js" = some LanguageConfig.builtins[0].id :=
    languageForPath?_of_last extension?_script last
  exact ⟨by rfl, by decide, found⟩

end Registry

end LiveTree

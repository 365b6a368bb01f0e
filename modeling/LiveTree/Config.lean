import LiveTree.Path

/-!
# Configuration

Plain settings, every one with a default.  Languages of a configuration are completed by the builtin
ones that it does not mention; a configuration is valid if its parse limit is positive and no
language is listed twice.
-/

namespace LiveTree

/-- Where the grammar of a language comes from. -/
inductive GrammarKind where
  | builtin
  | library
  deriving DecidableEq, Repr, Inhabited

/-- The settings of one language. -/
structure LanguageConfig where
  id : String
  grammar : Option String := none
  kind : GrammarKind := .library
  library : Option String := none
  fileTypes : List String := []
  listKinds : List String := []
  deriving DecidableEq, Repr, Inhabited

namespace LanguageConfig

/-- The name of the grammar: the language's own id unless it is given. -/
def grammarName (language : LanguageConfig) : String := language.grammar.getD language.id

/-- The languages whose grammars are always at hand. -/
def builtins : List LanguageConfig := [
  { id := "javascript"
    kind := .builtin
    fileTypes := ["js", "mjs", "cjs", "jsx"]
    listKinds := ["program", "statement_block", "class_body", "switch_body", "arguments",
      "formal_parameters", "array", "object", "array_pattern", "object_pattern", "named_imports",
      "export_clause", "template_string", "sequence_expression", "jsx_element"] },
  { id := "rust"
    kind := .builtin
    fileTypes := ["rs"]
    listKinds := ["source_file", "block", "declaration_list", "field_declaration_list",
      "ordered_field_declaration_list", "enum_variant_list", "field_initializer_list",
      "match_block", "arguments", "parameters", "closure_parameters", "type_arguments",
      "type_parameters", "tuple_expression", "array_expression", "tuple_pattern", "tuple_type",
      "use_list", "token_tree", "where_clause"] },
  { id := "json"
    kind := .builtin
    fileTypes := ["json"]
    listKinds := ["document", "object", "array"] }]

end LanguageConfig

/-- All settings. -/
structure Config where
  debounceMs : Nat := 1000
  parseTimeoutMs : Nat := 500
  maxParseRetries : Nat := 3
  scheduleOnEdit : Bool := true
  eventCapacity : Nat := 64
  grammarDir : Option String := none
  languages : List LanguageConfig := LanguageConfig.builtins
  deriving DecidableEq, Repr, Inhabited

/-- Why settings are refused. -/
inductive ConfigError where
  | unreadable (path reason : String)
  | malformed
  | zeroParseTimeout
  | duplicateLanguage (id : String)
  deriving DecidableEq, Repr

/-- The wording of a configuration error. -/
def ConfigError.message : ConfigError → String
  | unreadable path reason => s!"failed to read config {path}: {reason}"
  | malformed => "failed to parse config"
  | zeroParseTimeout => "invalid config: parse_timeout_ms must be greater than zero"
  | duplicateLanguage id => s!"invalid config: language '{id}' configured twice"

namespace Config

/-- The settings of a language. -/
def language? (config : Config) (id : String) : Option LanguageConfig :=
  config.languages.find? (·.id == id)

/-- The directory of grammar libraries: the configured one, or the usual place under the user's data
    directory. -/
def grammarDirectory (config : Config) (dataHome : String) : String :=
  config.grammarDir.getD (Path.join (Path.join dataHome "syntax-sync") "grammars")

/-- Appends the builtin languages that are not mentioned. -/
def withBuiltins (config : Config) : Config :=
  { config with languages := config.languages ++
      LanguageConfig.builtins.filter fun language => (config.language? language.id).isNone }

/-- The first id that occurs again after an earlier occurrence. -/
def firstRepeated? (seen : List String) : List String → Option String
  | [] => none
  | id :: rest => if seen.contains id then some id else firstRepeated? (id :: seen) rest

/-- Checks settings. -/
def validate (config : Config) : Except ConfigError Config :=
  if config.parseTimeoutMs = 0 then .error .zeroParseTimeout
  else
    match firstRepeated? [] (config.languages.map (·.id)) with
    | some id => .error (.duplicateLanguage id)
    | none => .ok config

/-- Completes and checks settings as they were read. -/
def accept (config : Config) : Except ConfigError Config := config.withBuiltins.validate

end Config

end LiveTree

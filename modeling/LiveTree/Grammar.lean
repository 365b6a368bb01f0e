import LiveTree.Config
import LiveTree.Library
import LiveTree.Text.Quoted

/-!
# Grammars and where they come from

A grammar is either builtin or comes from a shared library, which then stays open.  `Grammar.find` finds
and opens the grammar of a language.
-/

namespace LiveTree

/-- Why there is no grammar for a language. -/
inductive GrammarError where
  | unsupported (language : String)
  | notFound (language path : String)
  | library (path reason : String)
  | missingSymbol (path symbol : String)
  | incompatible (language reason : String)
  | unknownBuiltin (name : String)
  | pending (language : String)
  | task (reason : String)
  deriving DecidableEq, Repr

/-- The wording of a grammar error. -/
def GrammarError.message : GrammarError → String
  | unsupported language => s!"no grammar configured for language '{language}'"
  | notFound language path => s!"grammar library for '{language}' not found at {path}"
  | library path reason => s!"failed to load grammar library {path}: {reason}"
  | missingSymbol path symbol => s!"grammar library {path} does not export {symbol}"
  | incompatible language reason =>
    s!"grammar for '{language}' is incompatible with this tree-sitter runtime: {reason}"
  | unknownBuiltin name => s!"no builtin grammar named '{name}'"
  | pending language => s!"grammar for '{language}' is still loading"
  | task reason => s!"grammar loading task failed: {reason}"

/-- A grammar ready for use.  A parser may still reject it, for a reason known when it is opened. -/
structure Grammar where
  language : String
  listKinds : List String
  rejection : Option String
  deriving DecidableEq, Repr

namespace Grammar

/-- The grammar of a configured language; of its list kinds, repetitions count once. -/
def ofConfig (language : LanguageConfig) (rejection : Option String) : Grammar :=
  ⟨language.id, language.listKinds.eraseDups, rejection⟩

/-- Whether nodes of a kind are lists. -/
def isListKind (grammar : Grammar) (kind : String) : Bool := grammar.listKinds.contains kind

/-- The list kinds in alphabetical order. -/
def sortedListKinds (grammar : Grammar) : List String :=
  grammar.listKinds.mergeSort fun a b => !decide (b < a)

/-- The language and the number of list kinds in one line. -/
def describe (grammar : Grammar) : String :=
  "Grammar \x7b language_id: " ++ Text.quoted grammar.language.toList ++
    s!", list_node_kinds: {grammar.listKinds.length} " ++ "\x7d"

/-- A grammar's name as it appears in symbols and file names. -/
def identifier (name : String) : String :=
  String.ofList (name.toList.map fun c => if c = '-' then '_' else c)

/-- The file name of a grammar's library. -/
def libraryFileName (name : String) : String := s!"lib{identifier name}.so"

/-- The symbol under which a library exports a grammar. -/
def symbol (name : String) : String := s!"tree_sitter_{identifier name}"

/-- Whether a grammar is builtin. -/
def isBuiltin (name : String) : Bool := ["javascript", "rust", "json"].contains name

/-- Where the library of a language is expected. -/
def libraryPath (directory : String) (language : LanguageConfig) : String :=
  language.library.getD (Path.join directory (libraryFileName language.grammarName))

/-- Takes a language's grammar out of a library that was opened by a path.  The library stays open for
    the sake of the grammar; without one, it is open only if it was before. -/
def ofLibrary (kept : List OpenLibrary) (path : String) (library : OpenLibrary)
    (language : LanguageConfig) : List OpenLibrary × Except GrammarError Grammar :=
  let symbol := symbol language.grammarName
  match library.export? symbol with
  | none => (OpenLibrary.renew kept library, .error (.missingSymbol path symbol))
  | some rejection => (OpenLibrary.keep kept library, .ok (.ofConfig language rejection))

/-- Opens the grammar of a language, where `kept` are the libraries that are open; also tells which are
    open afterwards. -/
def find (libraries : Libraries) (kept : List OpenLibrary) (directory : String)
    (language : LanguageConfig) : List OpenLibrary × Except GrammarError Grammar :=
  match language.kind with
  | .builtin =>
    if isBuiltin language.grammarName then (kept, .ok (.ofConfig language none))
    else (kept, .error (.unknownBuiltin language.grammarName))
  | .library =>
    let path := libraryPath directory language
    match libraries.open? kept path with
    | none => (kept, .error (.notFound language.id path))
    | some (.error fault) => (kept, .error (.library path s!"{path}: {fault.message}"))
    | some (.ok library) => ofLibrary kept path library language

end Grammar

end LiveTree

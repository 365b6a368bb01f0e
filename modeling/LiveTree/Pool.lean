import LiveTree.Grammar
import LiveTree.Parser

/-!
# The parser pool

Parsers are made when they are needed and kept for reuse.  A parser is checked out for the duration
of one parse and returned however the parse ends.
-/

namespace LiveTree

/-- How many parsers were made and how many of them are idle. -/
structure Pool where
  created : Nat := 0
  idle : Nat := 0
  deriving DecidableEq, Repr, Inhabited

/-- Why a parse gave no tree. -/
inductive ParseFailure where
  | rejected (error : GrammarError)
  | timedOut (limit : Nat)
  deriving DecidableEq, Repr

namespace Pool

/-- Checks out a parser, an idle one if there is one. -/
def acquire (pool : Pool) : Pool :=
  if pool.idle = 0 then { pool with created := pool.created + 1 }
  else { pool with idle := pool.idle - 1 }

/-- Returns a parser. -/
def release (pool : Pool) : Pool := { pool with idle := pool.idle + 1 }

/-- What a checked-out parser makes of a text. -/
def attempt (parser : Parser) (grammar : Grammar) (text : Text) (previous : Option PreviousTree)
    (limit : Nat) : Except ParseFailure ParseTree :=
  match grammar.rejection with
  | some reason => .error (.rejected (.incompatible grammar.language reason))
  | none =>
    match parser grammar.language text previous limit with
    | some tree => .ok tree
    | none => .error (.timedOut limit)

/-- Parses a text with a parser of the pool. -/
def parse (pool : Pool) (parser : Parser) (grammar : Grammar) (text : Text)
    (previous : Option PreviousTree) (limit : Nat) : Pool × Except ParseFailure ParseTree :=
  (pool.acquire.release, attempt parser grammar text previous limit)

end Pool

end LiveTree

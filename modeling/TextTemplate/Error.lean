import TextTemplate.Data
import TextTemplate.Location
import TextTemplate.Text.Quoted

/-!
# Errors

An error names its cause and, if it concerns a point of a template, the location of that point. The
wording is fixed here, in one function for each kind of cause.

## Main definitions

* `GrammarError`: a template breaks the rules of the language.
* `LexicalError`: the text of a marker has no tokens at some point.
* `LookupError`: an expression asks for something that is not there.
* `Error`, `Error.location?`, `Error.message`: all errors.
-/

namespace TextTemplate

/-- What a template should have had where something else was found. -/
inductive Expectation where
  /-- The start of an expression. -/
  | literalOrName
  /-- The name of a member. -/
  | nameAfterDot
  /-- The end of an index. -/
  | closingBracket
  /-- The start of a block. -/
  | tagName
  /-- The end of a marker. -/
  | endOfExpression
  deriving DecidableEq, Repr

/-- The expectation in words. -/
def Expectation.describe : Expectation → String
  | literalOrName => "a literal or name"
  | nameAfterDot => "a name after '.'"
  | closingBracket => "']'"
  | tagName => "a tag name"
  | endOfExpression => "end of expression"

/-- How a template breaks the rules of the language. -/
inductive GrammarError where
  /-- Something was expected, and something else, given in words, was found. -/
  | unexpected (expected : Expectation) (found : String)
  /-- The marker ends just after an opening bracket. -/
  | unclosedBracket
  /-- An integer literal is too large. -/
  | invalidNumber (literal : String)
  /-- Brackets or tags are nested in more levels than the limit. -/
  | nestingTooDeep (limit : Nat)
  | unknownTag (name : String)
  /-- The template ends before the end tag. -/
  | unclosedTag (name endName : String)
  /-- An end tag does not close the tag that was opened last. -/
  | unexpectedEndTag (name : String)
  deriving DecidableEq, Repr

/-- The cause in words. -/
def GrammarError.message : GrammarError → String
  | unexpected expected found => s!"expected {expected.describe}, found {found}"
  | unclosedBracket => "unclosed '[': expected ']', found end of expression"
  | invalidNumber literal => s!"invalid number literal `{literal}`"
  | nestingTooDeep limit => s!"nested deeper than {limit} levels"
  | unknownTag name => s!"unknown tag `{name}`"
  | unclosedTag name endName => s!"tag `{name}` is never closed by `{endName}`"
  | unexpectedEndTag name => s!"unexpected end tag `{name}`"

/-- Why the text of a marker has no token at some point. -/
inductive LexicalError where
  | unexpectedChar (c : Char)
  | unterminatedString
  /-- The scanner gave up for a reason that does not lie in the text. -/
  | scannerFailed (reason : String)
  deriving DecidableEq, Repr

/-- The cause in words. -/
def LexicalError.message : LexicalError → String
  | unexpectedChar c => s!"unexpected character {Quoted.char c}"
  | unterminatedString => "unterminated string literal"
  | scannerFailed reason => s!"scanner failed: {reason}"

/-- What an expression asks for in vain. -/
inductive LookupError where
  | keyNotFound (name : String)
  | memberNotFound (name : String) (kind : Value.Kind)
  /-- There is no item at an index, which is given as in source text. -/
  | indexNotFound (index : String) (kind : Value.Kind)
  deriving DecidableEq, Repr

/-- The cause in words. -/
def LookupError.message : LookupError → String
  | keyNotFound name => s!"`{name}` is not defined in the context"
  | memberNotFound name kind => s!"{kind.name} has no attribute `{name}`"
  | indexNotFound index kind => s!"{kind.name} has no item at index {index}"

/-- An error in compiling or rendering a template, or in making a context for it. -/
inductive Error where
  | grammar (cause : GrammarError) (location : Location)
  | lexical (cause : LexicalError) (location : Location)
  | lookup (cause : LookupError) (location : Location)
  /-- The handler of a tag reports a failure. -/
  | tag (name reason : String)
  /-- A value is no context. -/
  | context (reason : String)
  /-- Data is no context, because it has no JSON document. -/
  | data (cause : DataError)
  deriving DecidableEq, Repr

namespace Error

/-- The point of the template that the error concerns, if it concerns one. -/
def location? : Error → Option Location
  | grammar _ loc => some loc
  | lexical _ loc => some loc
  | lookup _ loc => some loc
  | _ => none

/-- The error in words. -/
def message : Error → String
  | grammar cause loc => s!"syntax error at {loc.describe}: {cause.message}"
  | lexical cause loc => s!"lexical error at {loc.describe}: {cause.message}"
  | lookup cause loc => s!"lookup error at {loc.describe}: {cause.message}"
  | tag name reason => s!"tag `{name}` failed: {reason}"
  | context reason => s!"invalid context: {reason}"
  | data cause => s!"context serialization failed: {cause.message}"

end Error

end TextTemplate

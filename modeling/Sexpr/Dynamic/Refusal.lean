import Sexpr.Dynamic.Value
import Sexpr.Indexing
import Sexpr.Reading

/-!
# Refusals

Why an operation does not accept a loosely typed value. A refusal holds what was found; its
wording is one function.
-/

namespace Sexpr.Dynamic

/-- A place that accepts one type only. -/
inductive Site where
  | sourceText
  | atomToken
  | groupChild
  | tokenItem
  | successNode
  | failureError
  deriving DecidableEq, Repr

/-- What a site asks for. -/
def Site.demand : Site → String
  | .sourceText => "Tokenizer expects str"
  | .atomToken => "Atom token must be str"
  | .groupChild => "Group children must be Atom or Group"
  | .tokenItem => "Tokens must be str"
  | .successNode => "ParseSuccess requires an Atom or Group"
  | .failureError => "ParseFailure requires a LispSyntaxError"

/-- Why a value is not accepted; `found` is the name of its type. -/
inductive Refusal where
  | wrongType (site : Site) (found : String)
  | tokensAreText
  | notIterable (found : String)
  | unhashable (found : String)
  | abstractError
  | notReadings
  | noLength (found : String)
  | notIndexable (found : String)
  | badIndex (found : String)
  | noMember (found member : String)
  | unknownFormat (target : String)
  | index (error : IndexError)
  | unwrapped (error : SyntaxError)
  deriving DecidableEq

/-- The message of a refusal. -/
def Refusal.message : Refusal → String
  | .wrongType site found => site.demand ++ ", got " ++ found
  | .tokensAreText => "Parser expects a sequence of tokens, not a str"
  | .notIterable found => "'" ++ found ++ "' object is not iterable"
  | .unhashable found => "unhashable type: '" ++ found ++ "'"
  | .abstractError =>
    "Can't instantiate abstract class LispSyntaxError with abstract method describe"
  | .notReadings => "All items must be ParseResult instances."
  | .noLength found => "object of type '" ++ found ++ "' has no len()"
  | .notIndexable found => "'" ++ found ++ "' object is not subscriptable"
  | .badIndex found => "tuple indices must be integers or slices, not " ++ found
  | .noMember found member =>
    "'" ++ found ++ "' object has no attribute '" ++ member ++ "'"
  | .unknownFormat target => Text.Quoted.encode target
  | .index error => error.message
  | .unwrapped error => error.describe

end Sexpr.Dynamic

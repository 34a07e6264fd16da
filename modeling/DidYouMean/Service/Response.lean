import DidYouMean.Ranking.Basic
import DidYouMean.Service.Validation

/-!
# Responses

What the service answers, and how answers are written as JSON.

## Main definitions

- `Response`: an answer
- `Response.status`, `Response.body`: its status code and its body
- `Response.encoded`: what becomes of an answer on its way out

## Design notes

The texts of an answer that come from its request or from a universe may not be encodable.  Nobody
handles the error that this raises, and the caller is told no more than that there was one.
-/

namespace DidYouMean.Service

open Json (Value)

/-- An answer of the service. -/
inductive Response where
  | healthy
  | suggestions (found : List (Suggestion Float))
  | namespaces (found : List (String × Float))
  | unknownRoute
  | wrongMethod
  | invalidBody (problems : List Invalid)
  | blankQuery
  | violated (violation : ContractViolation)
  | noNamespaces
  | crashed (refusal : Refusal)
  | unencoded (intended : Response)

/-- The answer to what is refused: only broken promises are told to the caller. -/
def Response.ofRefusal : Refusal → Response
  | .contract violation => .violated violation
  | refusal => .crashed refusal

def Response.status : Response → Nat
  | .healthy | .suggestions _ | .namespaces _ => 200
  | .unknownRoute => 404
  | .wrongMethod => 405
  | .invalidBody _ | .blankQuery | .violated _ => 422
  | .noNamespaces | .crashed _ | .unencoded _ => 500

/-- A step to a value, written as JSON. -/
def Step.toValue : Step → Value
  | .field name => .text name
  | .index n => .int n

/-- A problem, written as JSON. -/
def Invalid.toValue (i : Invalid) : Value :=
  .object [("type", .text i.problem.kind), ("loc", .list (i.path.map Step.toValue)),
    ("msg", .text i.problem.message)]

/-- A suggestion, written as JSON. -/
def suggestionValue (s : Suggestion Float) : Value :=
  .object [("identity_key", .text s.identityKey), ("name", .text s.symbol.name),
    ("kind", .text s.symbol.kind.label), ("tier", .text s.tier.label),
    ("similarity_score", .real s.similarity), ("final_score", .real s.final)]

/-- A namespace with its score, written as JSON. -/
def namespaceValue (found : String × Float) : Value :=
  .object [("name", .text found.1), ("score", .real found.2)]

/-- The body of an answer that tells what is wrong. -/
def detail (v : Value) : Value :=
  .object [("detail", v)]

def Response.body : Response → Value
  | .healthy => .object [("status", .text "healthy")]
  | .suggestions found => .object [("suggestions", .list (found.map suggestionValue))]
  | .namespaces found => .object [("suggestions", .list (found.map namespaceValue))]
  | .unknownRoute => detail (.text "Not Found")
  | .wrongMethod => detail (.text "Method Not Allowed")
  | .invalidBody problems => detail (.list (problems.map Invalid.toValue))
  | .blankQuery => detail (.text "Query must be non-empty")
  | .violated violation => detail (.text violation.message)
  | .noNamespaces => detail (.text "No namespaces supplied and no universe loaded")
  | .crashed _ | .unencoded _ => .text "Internal Server Error"

/-- Whether all can be encoded that an answer takes over from others.  Messages quote it with
escapes. -/
def Response.isEncodable (encodes : Char → Bool) : Response → Bool
  | .suggestions found => found.all fun s =>
    s.identityKey.toList.all encodes && s.symbol.name.toList.all encodes
  | .namespaces found => found.all fun (name, _) => name.toList.all encodes
  | .invalidBody problems => problems.all (·.given.isEncodable encodes)
  | _ => true

/-- The answer itself, if it can be encoded. -/
def Response.encoded (encodes : Char → Bool) (r : Response) : Response :=
  if r.isEncodable encodes then r else .unencoded r

end DidYouMean.Service

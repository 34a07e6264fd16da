import DidYouMean.Candidate
import DidYouMean.Json.Reader
import DidYouMean.Service.Validation
import DidYouMean.Text.Blank
import DidYouMean.Text.LetterCase
import DidYouMean.Usage

/-!
# Requests

What the bodies of requests hold once they are valid.

## Main definitions

- `SymbolRequest`, `CandidateRequest`, `SuggestRequest`, `NamespaceRequest`: valid bodies
- `checkBody`: the valid body in the text of a request
-/

namespace DidYouMean.Service

/-- A symbol as a request describes it. -/
structure SymbolRequest where
  kind : String
  name : String
  qualifiedName : String
  typeKind : Option String
  baseTypes : List String
  deriving Repr, DecidableEq

/-- A candidate as a request describes it. -/
structure CandidateRequest where
  key : String
  tier : Tier
  symbol : SymbolRequest
  deriving Repr, DecidableEq

/-- A request for suggestions. -/
structure SuggestRequest where
  query : String
  candidates : List CandidateRequest
  usage : UsagePosition
  includeLibrary : Bool
  deriving Repr, DecidableEq

/-- A request for namespaces. -/
structure NamespaceRequest where
  query : String
  namespaces : Option (List String)
  deriving Repr, DecidableEq

/-- A word in lower case without the white space around it. -/
def folded (s : String) : String :=
  Text.lower (Text.trim s)

/-- Checks that the value is one of some words, in any case. -/
def oneOf {α : Type} (what : String) (labels : List String) (ofLabel? : String → Option α) :
    Check α :=
  fun path v =>
    match text path v with
    | .invalid problems => .invalid problems
    | .valid s =>
      match ofLabel? (folded s) with
      | some x => .valid x
      | none => fail (.rejected (what ++ " must be one of " ++ ", ".intercalate labels
          ++ "; got " ++ Text.quoted (folded s))) path (.text s)

def checkTier : Check Tier :=
  oneOf "tier" (Tier.all.map (·.label)) Tier.ofLabel?

def checkUsage : Check UsagePosition :=
  oneOf "usage" (UsagePosition.all.map (·.label)) UsagePosition.ofLabel?

section Bodies

variable (encodes : Char → Bool)

def checkSymbol : Check SymbolRequest :=
  object fun path fields =>
    (.valid SymbolRequest.mk : Checked _)
      |>.ap (required text "kind" path fields)
      |>.ap (required (filledText encodes) "name" path fields)
      |>.ap (optional text "" "qualified_name" path fields)
      |>.ap (optional (nullable text) none "type_kind" path fields)
      |>.ap (optional (list text) [] "base_types" path fields)

def checkCandidate : Check CandidateRequest :=
  object fun path fields =>
    (.valid CandidateRequest.mk : Checked _)
      |>.ap (required (filledText encodes) "key" path fields)
      |>.ap (required checkTier "tier" path fields)
      |>.ap (required (checkSymbol encodes) "symbol" path fields)

def checkSuggest : Check SuggestRequest :=
  object fun path fields =>
    (.valid SuggestRequest.mk : Checked _)
      |>.ap (required (filledText encodes) "query" path fields)
      |>.ap (optional (list (checkCandidate encodes)) [] "candidates" path fields)
      |>.ap (optional checkUsage .unknown "usage" path fields)
      |>.ap (optional truth false "include_library" path fields)

def checkNamespaces : Check NamespaceRequest :=
  object fun path fields =>
    (.valid NamespaceRequest.mk : Checked _)
      |>.ap (required (filledText encodes) "query" path fields)
      |>.ap (optional (nullable (list text)) none "namespaces" path fields)

end Bodies

/-- Checks the text of a body; an empty one counts as missing. -/
def checkBody {α : Type} (check : Check α) (body : String) : Checked α :=
  let here : List Step := [.field "body"]
  if body = "" then fail .missing here .null
  else match Json.readMarked body with
    | .ok v => check here v
    | .error e => fail .noJson (here ++ [.index e.position]) (.object [])

end DidYouMean.Service

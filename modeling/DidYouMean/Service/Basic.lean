import DidYouMean.Score.Namespaces
import DidYouMean.Service.Request
import DidYouMean.Service.Response
import DidYouMean.Universe.Cache
import DidYouMean.Universe.Library

/-!
# The suggestion service

The service suggests names and namespaces on request.  Callers bring the candidates; the types of a
universe, if one was loaded at start-up, can be added to them.

## Main definitions

- `SymbolRequest.toSymbol`, `CandidateRequest.toCandidate`: what a request describes
- `SuggestRequest.pool`: the candidates among which a request looks
- `suggest`, `suggestNamespaces`: the answers to valid requests
- `Service`, `Service.start`, `Service.answer`: the service, its start-up, and answering a request
-/

namespace DidYouMean.Service

/-- The parts of the symbol that a request describes.  A type of no stated kind is a class. -/
def SymbolRequest.parts (r : SymbolRequest) : Except ContractViolation SymbolParts :=
  match SymbolKind.ofLabel? (folded r.kind) with
  | none => .error (.unknownSymbolKind r.kind)
  | some kind =>
    let ofLabel typeLabel : SymbolParts :=
      ⟨.known kind, .text r.name, r.qualifiedName, typeLabel, .list (r.baseTypes.map .text)⟩
    match r.typeKind with
    | none => .ok (ofLabel (if kind = .type then some (.known .classType) else none))
    | some word =>
      match TypeKind.ofLabel? (folded word) with
      | none => .error (.unknownTypeKind word)
      | some typeKind => .ok (ofLabel (some (.known typeKind)))

def SymbolRequest.toSymbol (r : SymbolRequest) : Except Refusal Symbol := do
  let parts ← r.parts.mapError .contract
  parts.build

def CandidateRequest.toCandidate (r : CandidateRequest) : Except Refusal Candidate := do
  let symbol ← r.symbol.toSymbol
  CandidateParts.build ⟨.text r.key, .known symbol, .known (.tier r.tier)⟩

/-- The qualified names of the types among some candidates. -/
def callerTypes (candidates : List Candidate) : List String :=
  (candidates.filter fun c => c.symbol.kind = .type && c.symbol.qualifiedName ≠ "").map
    (·.symbol.qualifiedName)

/-- The candidates that a request adds from the library: none of the types that it brings itself. -/
def libraryFor (r : SuggestRequest) (universeRoot : Option Universe.NamespaceNode)
    (candidates : List Candidate) : Except Refusal (List Candidate) :=
  match r.includeLibrary, universeRoot with
  | true, some root => Universe.buildLibrary (callerTypes candidates) root
  | _, _ => .ok []

/-- The candidates among which a request looks: those that it brings, and those of the library. -/
def SuggestRequest.pool (r : SuggestRequest) (universeRoot : Option Universe.NamespaceNode) :
    Except Refusal (List Candidate) := do
  let candidates ← r.candidates.mapM CandidateRequest.toCandidate
  let library ← libraryFor r universeRoot candidates
  return candidates ++ library

/-- The records of adding the library. -/
def libraryLog (r : SuggestRequest) (universeRoot : Option Universe.NamespaceNode) :
    List Log.Record :=
  if r.includeLibrary && universeRoot.isNone then
    [⟨.warning, "include_library requested but no universe is loaded"⟩]
  else []

/-- What a request asks for. -/
def SuggestRequest.question (r : SuggestRequest) : Query :=
  ⟨Text.trim r.query, .position r.usage, Symbol.identityKey, .usual⟩

/-- Answers a request for suggestions, with the records on the way. -/
def suggest (universeRoot : Option Universe.NamespaceNode) (r : SuggestRequest) :
    Response × List Log.Record :=
  if Text.trim r.query = "" then (.blankQuery, [])
  else match r.pool universeRoot with
    | .error refusal => (.ofRefusal refusal, [])
    | .ok pool =>
      let ranked : PoolRanking Float :=
        r.question.rankPool none (pool.map fun c => .ok (.candidate c))
      let log := libraryLog r universeRoot ++ ranked.log
      match ranked.result with
      | .error refusal => (.ofRefusal refusal, log)
      | .ok ranking => (.suggestions ranking.suggestions, log)

def suggestNamespaces (universeRoot : Option Universe.NamespaceNode) (r : NamespaceRequest) :
    Response :=
  let query := Text.trim r.query
  if query = "" then .blankQuery
  else
    match r.namespaces, universeRoot with
    | some known, _ => .namespaces (Score.suggestNamespaces query known .usual)
    | none, some root =>
      .namespaces (Score.suggestNamespaces query (Universe.namespaceNames "" root) .usual)
    | none, none => .noNamespaces

/-- A request: the method, the path, and the text of the body. -/
structure Request where
  method : String
  path : String
  body : String
  deriving Repr, DecidableEq

/-- The routes of the service. -/
inductive Route where
  | health
  | suggest
  | namespaces
  deriving Repr, DecidableEq

/-- The method that a route takes. -/
def Route.method : Route → String
  | .health => "GET"
  | .suggest | .namespaces => "POST"

/-- The route of a path: what follows a question mark and a slash at the end do not count. -/
def Route.ofPath? (path : String) : Option Route :=
  let cs := path.toList.takeWhile (· != '?')
  let cs := if cs.getLast? = some '/' then cs.dropLast else cs
  match String.ofList cs with
  | "/health" => some .health
  | "/suggest" => some .suggest
  | "/namespaces" => some .namespaces
  | _ => none

/-- Answers a valid body, or tells what is wrong with it. -/
def answerBody {α : Type} (check : Check α) (respond : α → Response × List Log.Record)
    (body : String) : Response × List Log.Record :=
  match checkBody check body with
  | .valid r => respond r
  | .invalid problems => (.invalidBody problems, [])

def answerRoute (encodes : Char → Bool) (universeRoot : Option Universe.NamespaceNode)
    (route : Route) (body : String) : Response × List Log.Record :=
  match route with
  | .health => (.healthy, [])
  | .suggest => answerBody (checkSuggest encodes) (suggest universeRoot) body
  | .namespaces =>
    answerBody (checkNamespaces encodes) (fun r => (suggestNamespaces universeRoot r, [])) body

end Service

open Service (Request Response Route)

/-- The service: the files that it sees, the universes that it keeps, how many were loaded so far,
the one in use, where its records go, and the characters that the framework around it can encode. -/
structure Service where
  files : FileTree
  cache : Universe.Cache
  loaded : Nat
  inUse : Option Universe.Loaded
  sinks : Log.Sinks
  encodes : Char → Bool

namespace Service

def initial (files : FileTree) : Service :=
  ⟨files, [], 0, none, ⟨.info, false⟩, fun c => !Text.isLoneSurrogate c⟩

/-- Answers a request, with the records that are kept. -/
def answer (s : Service) (r : Request) : Response × List Log.Record :=
  match Route.ofPath? r.path with
  | none => (.unknownRoute, [])
  | some route =>
    if r.method ≠ route.method then (.wrongMethod, [])
    else
      let (response, log) := answerRoute s.encodes (s.inUse.map (·.root)) route r.body
      (response.encoded s.encodes, s.sinks.kept log)

def write (s : Service) (path : Path) (content : Content) (stamp : Option Stamp) :
    Except FileError Service :=
  (s.files.write path content stamp).map fun files => { s with files }

/-- The file of the universe: the one configured, or the usual one if it is there. -/
def universePath? (s : Service) (configured : Option Path) (usual : Path) : Option Path :=
  match configured with
  | some path => some path
  | none => if (s.files.look? usual).isSome then some usual else none

/-- What comes of a start-up: the service, the records, and the error that ended it, if one
did. -/
structure StartUp where
  service : Service
  log : List Log.Record
  failure : Option Universe.LoadError

def beginRecord : Log.Record := ⟨.info, "Starting namesuggest service..."⟩

def endRecord : Log.Record := ⟨.info, "Startup complete."⟩

def noUniverseRecord : Log.Record := ⟨.info, "No universe configured; library tier disabled."⟩

def failureRecord (path : Path) (e : Universe.LoadError) : Log.Record :=
  ⟨.warning, "Failed to load universe " ++ path.shown ++ ": " ++ e.message⟩

/-- Loads the universe of a path and puts it to use.  If that fails as loading may fail, none is in
use; any other error ends the start-up. -/
def startWith (s : Service) (path : Path) : StartUp :=
  let (cache, loading) := s.cache.get s.files s.loaded path
  match loading.result with
  | .ok u =>
    ⟨{ s with cache, loaded := max s.loaded (u.serial + 1), inUse := some u },
      beginRecord :: loading.log ++ [endRecord], none⟩
  | .error e =>
    if e.isExpected then
      ⟨{ s with inUse := none }, beginRecord :: loading.log ++ [failureRecord path e, endRecord],
        none⟩
    else ⟨s, beginRecord :: loading.log, some e⟩

/-- Starts the service.  If no universe is configured and there is no usual one, the one in use
stays. -/
def start (s : Service) (configured : Option Path) (usual : Path) : StartUp :=
  match s.universePath? configured usual with
  | none => ⟨s, [beginRecord, noUniverseRecord], none⟩
  | some path => s.startWith path

end Service

end DidYouMean

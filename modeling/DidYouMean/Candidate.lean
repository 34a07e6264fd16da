import DidYouMean.Symbol.Basic

/-!
# Candidates

A candidate is a symbol that the name asked for may stand for, together with the key that it is
compared by and the tier in which it was found.
-/

namespace DidYouMean

/-- Where a candidate was found, the nearest place first. -/
inductive Tier where
  | localScope
  | currentClass
  | currentProject
  | externalLibrary
  deriving Repr, DecidableEq

/-- All tiers, the nearest first. -/
def Tier.all : List Tier := [.localScope, .currentClass, .currentProject, .externalLibrary]

/-- How a tier is written. -/
def Tier.label : Tier → String
  | .localScope => "local_scope"
  | .currentClass => "current_class"
  | .currentProject => "current_project"
  | .externalLibrary => "external_library"

/-- The tier that is written so. -/
def Tier.ofLabel? (label : String) : Option Tier :=
  Tier.all.find? (·.label == label)

/-- A symbol to suggest, its key and its tier. -/
structure Candidate where
  key : String
  symbol : Symbol
  tier : Tier
  deriving Repr, DecidableEq

/-- A bare name of the current project as a candidate. -/
def Candidate.ofName (name : String) : Candidate :=
  ⟨name, .raw name, .currentProject⟩

end DidYouMean

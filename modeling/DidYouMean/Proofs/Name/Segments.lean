import DidYouMean.Name.Segments
import Mathlib.Data.List.TakeWhile
import Mathlib.Data.String.Basic

/-!
# Short names of types

The short name of a type is what stands behind its last dot, up to the first type parameter.  The dot
is looked for first, in the type parameters as well, and so a name with parameters is cut where they
begin only if no dot is among them.

## Main definitions

- `IsBare`: a name without a path and without type parameters
- `IsParameters`: type parameters as they stand behind a name, or nothing

## Main statements

- `shortTypeName_dotted`: a path before a name does not matter
- `shortTypeName_append_iff`: when a name with type parameters is shortened to the name
-/

namespace DidYouMean.Name

/-- A name to which neither a path nor type parameters belong. -/
def IsBare (name : String) : Prop :=
  ∀ c ∈ name.toList, c ∉ ['.', '<', '\x60']

instance : DecidablePred IsBare := fun name => List.decidableBAll _ name.toList

/-- Type parameters as they stand behind a name, or nothing. -/
def IsParameters (suffix : String) : Prop :=
  ∀ c ∈ suffix.toList.head?, c ∈ ['<', '\x60']

section Segments

variable {back : List Char}

theorem lastSegmentChars_of_notMem (h : '.' ∉ back) : lastSegmentChars back = back := by
  have hall : back.reverse.takeWhile (· != '.') = back.reverse := by
    rw [List.takeWhile_eq_self_iff]
    intro c hc
    have hne : c ≠ '.' := fun heq => h (heq ▸ List.mem_reverse.mp hc)
    simpa using hne
  rw [lastSegmentChars, hall, List.reverse_reverse]

/-- Nothing before a dot matters. -/
theorem lastSegmentChars_append (front : List Char) (h : '.' ∈ back) :
    lastSegmentChars (front ++ back) = lastSegmentChars back := by
  have hstop : (back.reverse.takeWhile (· != '.')).length ≠ back.reverse.length := by
    intro hlength
    have hall := (List.takeWhile_prefix (· != '.')).eq_of_length hlength
    have hne := List.takeWhile_eq_self_iff.mp hall '.' (List.mem_reverse.mpr h)
    simp at hne
  rw [lastSegmentChars, lastSegmentChars, List.reverse_append, List.takeWhile_append,
    if_neg hstop]

theorem lastSegmentChars_cons_dot (back : List Char) :
    lastSegmentChars ('.' :: back) = lastSegmentChars back := by
  by_cases h : '.' ∈ back
  · exact lastSegmentChars_append ['.'] h
  · rw [lastSegmentChars_of_notMem h, lastSegmentChars, List.reverse_cons, List.takeWhile_append]
    have hall : back.reverse.takeWhile (· != '.') = back.reverse := by
      rw [← List.reverse_inj, List.reverse_reverse]
      exact lastSegmentChars_of_notMem h
    rw [if_pos (congrArg _ hall)]
    simp

end Segments

section TypeNames

variable {name suffix : String}

/-- A path before the name of a type does not matter. -/
theorem shortTypeName_dotted (path name : String) :
    shortTypeName (path ++ "." ++ name) = shortTypeName name := by
  have hchars : (path ++ "." ++ name).toList = path.toList ++ '.' :: name.toList := by simp
  rw [shortTypeName, hchars, lastSegmentChars_append _ List.mem_cons_self, lastSegmentChars_cons_dot,
    shortTypeName]

/-- Type parameters without a dot are cut off. -/
theorem shortTypeName_of_dotless (hname : IsBare name) (hsuffix : IsParameters suffix)
    (hdot : '.' ∉ suffix.toList) : shortTypeName (name ++ suffix) = name := by
  have hdotless : '.' ∉ name.toList ++ suffix.toList := by
    rw [List.mem_append, not_or]
    exact ⟨fun hmem => hname '.' hmem (by simp), hdot⟩
  have hkept : ∀ c ∈ name.toList, (!startsParameters c) = true := by
    intro c hc
    have hplain := hname c hc
    simp_all [startsParameters]
  have hcut : suffix.toList.takeWhile (fun c => !startsParameters c) = [] := by
    cases hchars : suffix.toList with
    | nil => rfl
    | cons c rest =>
      have hstart : c = '<' ∨ c = '\x60' := by simpa using hsuffix c (by rw [hchars]; rfl)
      apply List.takeWhile_cons_of_neg
      rcases hstart with rfl | rfl <;> decide
  rw [shortTypeName, String.toList_append, lastSegmentChars_of_notMem hdotless,
    List.takeWhile_append_of_pos hkept, hcut, List.append_nil, String.ofList_toList]

/-- A dot among the type parameters is taken for the end of a path. -/
theorem shortTypeName_of_dot (hdot : '.' ∈ suffix.toList) :
    shortTypeName (name ++ suffix) = shortTypeName suffix := by
  rw [shortTypeName, String.toList_append, lastSegmentChars_append _ hdot, shortTypeName]

/-- A name with type parameters is shortened to the name if no dot is among the parameters, or if what
stands behind the last of these dots is shortened to the same name. -/
theorem shortTypeName_append_iff (hname : IsBare name) (hsuffix : IsParameters suffix) :
    shortTypeName (name ++ suffix) = name ↔
      '.' ∉ suffix.toList ∨ shortTypeName suffix = name := by
  by_cases hdot : '.' ∈ suffix.toList
  · rw [shortTypeName_of_dot hdot]
    simp [hdot]
  · exact iff_of_true (shortTypeName_of_dotless hname hsuffix hdot) (.inl hdot)

end TypeNames

end DidYouMean.Name

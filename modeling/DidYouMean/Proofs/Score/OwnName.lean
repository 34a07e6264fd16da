import DidYouMean.Proofs.Similarity.DoubleBounds
import DidYouMean.Score.Finder

/-!
# The score of a name with itself

No name has a higher similarity to a query, or higher bonuses for equality and containment, than the
query itself, and none has a smaller penalty.  Rounding does not change that.  Only the bonus for shared
words can be higher: a word of the query counts once for each word of the name that it matches.

## Main statements

- `tokenBonus_le_own`: the bonus is not higher if no word of the query matches two words of the name
- `not_own_lt`: then the score is not higher either
- `similarNames_le_own`: so no name is found with a higher score than the query itself
- `not_similarNames_le_own`: without the condition, one can be
-/

namespace DidYouMean.Score

section Bonuses

variable {x y : Float} {ms : List WordMatch}

/-- A sum with the bonuses of more matches. -/
def addBonuses (x : Float) (ms : List WordMatch) : Float :=
  ms.foldl (fun sum m => sum + m.bonus) x

theorem addBonuses_append (x : Float) (ms ms' : List WordMatch) :
    addBonuses x (ms ++ ms') = addBonuses (addBonuses x ms) ms' :=
  List.foldl_append

theorem hasPlus_bonus (m : WordMatch) : HasPlus m.bonus := by
  cases m <;> exact .of_pos (by decide)

theorem bonus_le_equal (m : WordMatch) : (m.bonus : Float) ≤ WordMatch.equal.bonus := by
  cases m <;> decide

theorem hasPlus_addBonuses (hx : HasPlus x) : HasPlus (addBonuses x ms) := by
  induction ms generalizing x with
  | nil => exact hx
  | cons m ms ih => exact ih (hx.add (hasPlus_bonus m))

theorem le_addBonuses (hx : HasPlus x) : x ≤ addBonuses x ms := by
  induction ms generalizing x with
  | nil => exact hx.isNumber
  | cons m ms ih =>
    exact double_le_trans (double_le_add hx (hasPlus_bonus m)) (ih (hx.add (hasPlus_bonus m)))

theorem add_equal_le_addBonuses (hx : HasPlus x) (h : WordMatch.equal ∈ ms) :
    x + WordMatch.equal.bonus ≤ addBonuses x ms := by
  obtain ⟨before, after, rfl⟩ := List.append_of_mem h
  have hbefore : HasPlus (addBonuses x before) := hasPlus_addBonuses hx
  rw [addBonuses_append]
  exact double_le_trans
    (double_add_le_add_right hx hbefore (hasPlus_bonus .equal) (le_addBonuses hx))
    (le_addBonuses (hbefore.add (hasPlus_bonus .equal)))

/-- A row of at most one match has no higher bonuses than one with a match of equal words. -/
theorem addBonuses_row_le {ms' : List WordMatch} (hshort : ms.length ≤ 1)
    (hequal : WordMatch.equal ∈ ms') (hx : HasPlus x) (hy : HasPlus y) (hle : x ≤ y) :
    addBonuses x ms ≤ addBonuses y ms' := by
  match ms with
  | [] => exact double_le_trans hle (le_addBonuses hy)
  | [m] =>
    exact double_le_trans
      (double_add_le_add hx hy (hasPlus_bonus m) (hasPlus_bonus .equal) hle (bonus_le_equal m))
      (add_equal_le_addBonuses hy hequal)
  | _ :: _ :: _ => simp at hshort

/-- Rows of at most one match each have no higher bonuses, and no more matches, than rows with a match
of equal words each. -/
theorem addBonuses_flatMap_le {words : List String} {row row' : String → List WordMatch}
    (hrow : ∀ w ∈ words, (row w).length ≤ 1) (hrow' : ∀ w ∈ words, WordMatch.equal ∈ row' w)
    (hx : HasPlus x) (hy : HasPlus y) (hle : x ≤ y) :
    addBonuses x (words.flatMap row) ≤ addBonuses y (words.flatMap row') ∧
      (words.flatMap row).length ≤ (words.flatMap row').length := by
  induction words generalizing x y with
  | nil => exact ⟨hle, le_rfl⟩
  | cons w words ih =>
    have hshort := hrow w List.mem_cons_self
    have hequal := hrow' w List.mem_cons_self
    have hstep := addBonuses_row_le hshort hequal hx hy hle
    obtain ⟨hsum, hlength⟩ := ih (fun v hv => hrow v (List.mem_cons_of_mem _ hv))
      (fun v hv => hrow' v (List.mem_cons_of_mem _ hv)) (hasPlus_addBonuses hx)
      (hasPlus_addBonuses hy) hstep
    rw [List.flatMap_cons, List.flatMap_cons, addBonuses_append, addBonuses_append,
      List.length_append, List.length_append]
    exact ⟨hsum, Nat.add_le_add (hshort.trans (List.length_pos_of_mem hequal)) hlength⟩

end Bonuses

section Parts

variable {query name : String}

theorem hasPlus_multiTokenBonus : HasPlus multiTokenBonus := .of_pos (by decide)

theorem tokenBonus_eq (query name : String) : (tokenBonus query name : Float) =
    if multiTokenPairs ≤ (wordMatches query name).length then
      addBonuses 0.0 (wordMatches query name) + multiTokenBonus
    else addBonuses 0.0 (wordMatches query name) :=
  rfl

theorem hasPlus_tokenBonus (query name : String) : HasPlus (tokenBonus query name) := by
  have hsum : HasPlus (addBonuses 0.0 (wordMatches query name)) := hasPlus_addBonuses hasPlus_zero
  rw [tokenBonus_eq]
  split_ifs
  · exact hsum.add hasPlus_multiTokenBonus
  · exact hsum

/-- The bonus for shared words is not higher than that of the query with itself if no word of the
query matches two words of the name. -/
theorem tokenBonus_le_own (h : ∀ w ∈ Name.distinctTokens query,
    ((Name.distinctTokens name).filterMap (wordMatch? w)).length ≤ 1) :
    (tokenBonus query name : Float) ≤ tokenBonus query query := by
  have hown : ∀ w ∈ Name.distinctTokens query,
      WordMatch.equal ∈ (Name.distinctTokens query).filterMap (wordMatch? w) :=
    fun w hw => List.mem_filterMap.mpr ⟨w, hw, if_pos rfl⟩
  have hplus : HasPlus (addBonuses 0.0 (wordMatches query name)) := hasPlus_addBonuses hasPlus_zero
  have hplus' : HasPlus (addBonuses 0.0 (wordMatches query query)) :=
    hasPlus_addBonuses hasPlus_zero
  obtain ⟨hsum, hlength⟩ : addBonuses 0.0 (wordMatches query name) ≤
      addBonuses 0.0 (wordMatches query query) ∧
        (wordMatches query name).length ≤ (wordMatches query query).length :=
    addBonuses_flatMap_le h hown hasPlus_zero hasPlus_zero hasPlus_zero.isNumber
  rw [tokenBonus_eq, tokenBonus_eq]
  split_ifs with hmany hmany' hmany'
  · exact double_add_le_add_right hplus hplus' hasPlus_multiTokenBonus hsum
  · exact absurd (hmany.trans hlength) hmany'
  · exact double_le_trans hsum (double_le_add hplus' hasPlus_multiTokenBonus)
  · exact hsum

/-- The bonus for equality is highest for the query itself. -/
theorem exact_le_own (query name : String) : HasPlus (breakdown query name).exact ∧
    ((breakdown query name).exact : Float) ≤ (breakdown query query).exact := by
  have hbonus : HasPlus exactBonus := .of_pos (by decide)
  have hown : ((breakdown query query).exact : Float) = exactBonus := if_pos rfl
  rw [hown, breakdown]
  dsimp only
  split_ifs
  · exact ⟨hbonus, hbonus.isNumber⟩
  · exact ⟨hasPlus_zero, hbonus.nonneg⟩

theorem isPrefixOf_self (text : List Char) : text.isPrefixOf text = true :=
  List.isPrefixOf_iff_prefix.mpr (List.prefix_refl text)

/-- A text that contains another one or is contained in it contains itself. -/
theorem contains_self {a b : List Char} (h : contains a b = true) : contains a a = true := by
  cases a with
  | nil => exact absurd h Bool.false_ne_true
  | cons c rest => simp [contains, occursIn, isPrefixOf_self]

/-- So is the bonus for containment. -/
theorem containment_le_own (query name : String) : HasPlus (breakdown query name).containment ∧
    ((breakdown query name).containment : Float) ≤ (breakdown query query).containment := by
  have hbonus : HasPlus containmentBonus := .of_pos (by decide)
  rw [breakdown, breakdown]
  dsimp only
  split_ifs with hcontains hown hown
  · exact ⟨hbonus, hbonus.isNumber⟩
  · exact absurd (contains_self hcontains) hown
  · exact ⟨hasPlus_zero, hbonus.nonneg⟩
  · exact ⟨hasPlus_zero, hasPlus_zero.isNumber⟩

/-- What a score has but for the penalty. -/
def gains (query name : String) : Float :=
  (breakdown query name).base + (breakdown query name).exact +
    (breakdown query name).containment + tokenBonus query name

theorem composite_eq_gains_sub (query name : String) :
    composite query name = gains query name - (breakdown query name).penalty :=
  rfl

/-- The score of a name with itself has no penalty. -/
theorem composite_self (query : String) :
    HasPlus (gains query query) ∧ composite query query = gains query query := by
  have hbase : HasPlus (breakdown query query).base := by
    rw [breakdown, Similarity.jaroWinkler_self_double]
    exact hasPlus_one
  have hnothing : (Arith.ofCount 0 * lengthPenalty : Float) = 0.0 := by decide
  have hpenalty : ((breakdown query query).penalty : Float) = 0.0 := by
    rw [breakdown, Nat.sub_self]
    exact hnothing
  have hgains : HasPlus (gains query query) :=
    ((hbase.add (exact_le_own query query).1).add (containment_le_own query query).1).add
      (hasPlus_tokenBonus query query)
  refine ⟨hgains, ?_⟩
  rw [composite_eq_gains_sub, hpenalty, double_sub_zero hgains]

/-- If the bonus for shared words is not higher, nothing that a score has is. -/
theorem gains_le_own (hnumber : gains query name ≤ gains query name)
    (htokens : (tokenBonus query name : Float) ≤ tokenBonus query query) :
    HasPlus (gains query name) ∧ gains query name ≤ gains query query := by
  have hbaseNumber := (isNumber_of_add (isNumber_of_add (isNumber_of_add hnumber).1).1).1
  obtain ⟨hbase, hle⟩ := Similarity.jaroWinkler_le_one_double hbaseNumber
  obtain ⟨hexact, hexactLe⟩ := exact_le_own query name
  obtain ⟨hcontainment, hcontainmentLe⟩ := containment_le_own query name
  have hownBase : ((breakdown query query).base : Float) = 1.0 :=
    Similarity.jaroWinkler_self_double _
  have hownExact := (exact_le_own query query).1
  have hownContainment := (containment_le_own query query).1
  refine ⟨((hbase.add hexact).add hcontainment).add (hasPlus_tokenBonus query name), ?_⟩
  rw [gains, gains, hownBase]
  have hfirst := double_add_le_add hbase hasPlus_one hexact hownExact hle hexactLe
  have hsecond := double_add_le_add (hbase.add hexact) (hasPlus_one.add hownExact) hcontainment
    hownContainment hfirst hcontainmentLe
  exact double_add_le_add ((hbase.add hexact).add hcontainment)
    ((hasPlus_one.add hownExact).add hownContainment) (hasPlus_tokenBonus query name)
    (hasPlus_tokenBonus query query) hsecond htokens

/-- No name has a higher score than the query itself, unless it has a higher bonus for shared words. -/
theorem not_own_lt (htokens : (tokenBonus query name : Float) ≤ tokenBonus query query) :
    ¬(composite query query : Float) < composite query name := by
  intro hlt
  have hnumber := double_le_self_right (double_le_of_lt hlt)
  rw [composite_eq_gains_sub] at hnumber
  obtain ⟨hgains, hpenalty⟩ := isNumber_of_sub hnumber
  obtain ⟨hplus, hle⟩ := gains_le_own hgains htokens
  have hplusPenalty : HasPlus (breakdown query name).penalty :=
    (units_ofNat _).1.mul (.of_pos (by decide)) hpenalty
  rw [(composite_self query).2, composite_eq_gains_sub] at hlt
  exact not_lt_sub hplus hplusPenalty (double_lt_of_le_of_lt hle hlt)

end Parts

section Found

/-- What is found are entries with their scores, and these are high enough. -/
theorem mem_of_mem_best {β : Type} {score : β → Float} {keep : Float → Bool} {limit : Limit}
    {entries : List β} {e : β × Float} (h : e ∈ best score keep limit entries) :
    e.1 ∈ entries ∧ e.2 = score e.1 ∧ keep e.2 = true := by
  rw [best, byScore] at h
  obtain ⟨hscored, hkeep⟩ := List.mem_filter.mp (List.mem_mergeSort.mp (limit.mem_of_mem_take h))
  obtain ⟨entry, hentry, rfl⟩ := List.mem_map.mp hscored
  exact ⟨hentry, rfl, hkeep⟩

/-- All of them are found if there are no more than the limit. -/
theorem mem_best_of_length_le {β : Type} {score : β → Float} {keep : Float → Bool} {n : Nat}
    {entries : List β} {entry : β} (hentry : entry ∈ entries) (hkeep : keep (score entry) = true)
    (hlength : entries.length ≤ n) :
    (entry, score entry) ∈ best score keep (some (n : Int)) entries := by
  rw [best, byScore, Limit.take_natCast]
  rw [List.take_of_length_le, List.mem_mergeSort, List.mem_filter]
  · exact ⟨List.mem_map.mpr ⟨entry, hentry, rfl⟩, hkeep⟩
  · rw [List.length_mergeSort]
    exact (List.length_filter_le _ _).trans (by rwa [List.length_map])

/-- No name is found for a query with a higher score than the query itself, unless it has a higher bonus
for shared words.  For that, a word of the query has to match more than one word of the name. -/
theorem similarNames_le_own (query : String) :
    (∀ name, (tokenBonus query name : Float) ≤ tokenBonus query query →
      ¬(composite query query : Float) < composite query name) ∧
    (∀ (names : List String) (limit : Limit),
      ∀ e ∈ (similarNames query names limit : List (String × Float)),
        (tokenBonus query e.1 : Float) ≤ tokenBonus query query → e.2 ≤ composite query query) ∧
    ∀ name, (∀ w ∈ Name.distinctTokens query,
      ((Name.distinctTokens name).filterMap (wordMatch? w)).length ≤ 1) →
        (tokenBonus query name : Float) ≤ tokenBonus query query := by
  refine ⟨fun name => not_own_lt, fun names limit e he htokens => ?_, fun name => tokenBonus_le_own⟩
  obtain ⟨-, hscore, hkeep⟩ := mem_of_mem_best he
  have hown : HasPlus (composite query query) := by
    rw [(composite_self query).2]
    exact (composite_self query).1
  have hnumber : e.2 ≤ e.2 := double_le_self_right (of_decide_eq_true hkeep)
  refine (double_not_lt_iff hown.isNumber hnumber).mp ?_
  rw [hscore]
  exact not_own_lt htokens

/-- A name that shares a word with the query is found, and has a lower score. -/
theorem similarNames_le_own_firstName :
    let names := ["firstName", "lastName"]
    (∃ score, ("lastName", score) ∈
      (similarNames "firstName" names .usual : List (String × Float)) ∧
        score ≤ composite "firstName" "firstName") ∧
    ¬(composite "firstName" "firstName" : Float) < composite "firstName" "lastName" := by
  intro names
  obtain ⟨hscore, hfound, htokens⟩ := similarNames_le_own "firstName"
  have hbonus : (tokenBonus "firstName" "lastName" : Float) ≤ tokenBonus "firstName" "firstName" :=
    htokens "lastName" (by decide +kernel)
  have hmem : ("lastName", composite "firstName" "lastName") ∈
      (similarNames "firstName" names .usual : List (String × Float)) :=
    mem_best_of_length_le (n := 5) (by simp [names]) (by decide +kernel) (by simp [names])
  have hle := hfound names .usual _ hmem hbonus
  exact ⟨⟨_, hmem, hle⟩, hscore "lastName" hbonus⟩

/-- The one word of the query matches both words of the other name, for which there is more than for
being equal. -/
theorem not_similarNames_le_own : ¬∀ (query : String) (names : List String),
    query ≠ "" → query ∈ names →
      ∀ e ∈ (similarNames query names .usual : List (String × Float)),
        e.2 ≤ composite query query := by
  intro h
  have hmem : ("aAa", composite "aaa" "aAa") ∈
      (similarNames "aaa" ["aaa", "aAa"] .usual : List (String × Float)) :=
    mem_best_of_length_le (n := 5) (by simp) (by decide +kernel) (by simp)
  have hle := h "aaa" ["aaa", "aAa"] (by decide) (by decide) _ hmem
  exact absurd hle (by decide +kernel)

end Found

end DidYouMean.Score

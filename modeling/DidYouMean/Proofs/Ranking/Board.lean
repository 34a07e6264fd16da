import DidYouMean.Proofs.Score.Order
import DidYouMean.Ranking.Board
import Mathlib.Data.List.Induction
import Mathlib.Data.List.Nodup

/-!
# What the board holds

After any row of offers the board holds one standing for each identity that was offered: the first
of those that reach the highest final score of that identity.

## Main definitions

- `Standing.Leads`: a standing is the first of the best of its identity
- `Board.Records`: the board holds the leading standing of each identity

## Main statements

- `Board.Records.offer`: one offer keeps the board in this state
- `records_foldl_offer`: so does a row of offers
-/

namespace DidYouMean

variable {α : Type} [Arith α]

/-- Of the standings of its identity none has a higher final score, and none that equals it in this
is earlier. -/
structure Standing.Leads (s : Standing α) (seen : List (Standing α)) : Prop where
  mem : s ∈ seen
  highest : ∀ t ∈ seen, t.suggestion.identityKey = s.suggestion.identityKey →
    ¬s.suggestion.final < t.suggestion.final
  earliest : ∀ t ∈ seen, t.suggestion.identityKey = s.suggestion.identityKey →
    ¬t.suggestion.final < s.suggestion.final → s.order ≤ t.order

/-- The board has one entry for each identity seen, and it is the leading one. -/
structure Board.Records (board : Board α) (seen : List (Standing α)) : Prop where
  nodup : (board.map (·.1)).Nodup
  leads : ∀ k s, (k, s) ∈ board → s.suggestion.identityKey = k ∧ s.Leads seen
  covers : ∀ t ∈ seen, ∃ s, (t.suggestion.identityKey, s) ∈ board

namespace Standing

variable {s new : Standing α} {seen : List (Standing α)}

/-- A leading standing still leads after one that is no better. -/
theorem Leads.append (h : s.Leads seen) (horder : ∀ t ∈ seen, t.order < new.order)
    (hnew : new.suggestion.identityKey = s.suggestion.identityKey →
      ¬s.suggestion.final < new.suggestion.final) : s.Leads (seen ++ [new]) where
  mem := List.mem_append_left _ h.mem
  highest t ht hkey := by
    rcases List.mem_append.mp ht with ht | ht
    · exact h.highest t ht hkey
    · obtain rfl := List.mem_singleton.mp ht
      exact hnew hkey
  earliest t ht hkey hlt := by
    rcases List.mem_append.mp ht with ht | ht
    · exact h.earliest t ht hkey hlt
    · obtain rfl := List.mem_singleton.mp ht
      exact Nat.le_of_lt (horder s h.mem)

/-- A standing that is better than all of its identity before it leads. -/
theorem leads_append_of_lt
    (ord : Comparable ((seen ++ [new]).map (·.suggestion.final)))
    (hlt : ∀ t ∈ seen, t.suggestion.identityKey = new.suggestion.identityKey →
      t.suggestion.final < new.suggestion.final) : new.Leads (seen ++ [new]) where
  mem := by simp
  highest t ht hkey := by
    have hnew : new.suggestion.final ∈ (seen ++ [new]).map (·.suggestion.final) := by simp
    rcases List.mem_append.mp ht with hseen | hseen
    · exact ord.asymm _ (List.mem_map_of_mem ht) _ hnew (hlt t hseen hkey)
    · obtain rfl := List.mem_singleton.mp hseen
      exact ord.irrefl hnew
  earliest t ht hkey hnot := by
    rcases List.mem_append.mp ht with hseen | hseen
    · exact absurd (hlt t hseen hkey) hnot
    · obtain rfl := List.mem_singleton.mp hseen
      exact Nat.le_refl _

/-- What a standing is better than, all those are that do not lead it. -/
theorem Leads.lt_of_lt (h : s.Leads seen)
    (ord : Comparable ((seen ++ [new]).map (·.suggestion.final)))
    (hkey : s.suggestion.identityKey = new.suggestion.identityKey)
    (hlt : s.suggestion.final < new.suggestion.final) :
    ∀ t ∈ seen, t.suggestion.identityKey = new.suggestion.identityKey →
      t.suggestion.final < new.suggestion.final := by
  intro t ht htkey
  have hmem : ∀ u ∈ seen, u.suggestion.final ∈ (seen ++ [new]).map (·.suggestion.final) :=
    fun u hu => List.mem_map_of_mem (List.mem_append_left _ hu)
  exact ord.lt_of_not_lt_of_lt (hmem t ht) (hmem s h.mem) (by simp)
    (h.highest t ht (htkey.trans hkey.symm)) hlt

end Standing

namespace Board

variable {board : Board α} {seen : List (Standing α)} {new : Standing α}

/-- An identity that has no entry was not offered yet. -/
theorem Records.ne_of_lookup_none (h : board.Records seen)
    (hnone : board.lookup new.suggestion.identityKey = none) :
    ∀ t ∈ seen, t.suggestion.identityKey ≠ new.suggestion.identityKey := by
  intro t ht hkey
  obtain ⟨s, hs⟩ := h.covers t ht
  have hne := List.lookup_eq_none_iff.mp hnone _ hs
  simp [hkey] at hne

/-- The board has no second entry for an identity. -/
theorem Records.eq_of_mem (h : board.Records seen) {k : String} {s t : Standing α}
    (hs : (k, s) ∈ board) (ht : (k, t) ∈ board) : s = t :=
  congrArg Prod.snd (List.inj_on_of_nodup_map h.nodup hs ht rfl)

/-- An offer puts an entry for a new identity on the board. -/
theorem Records.append (h : board.Records seen) (horder : ∀ t ∈ seen, t.order < new.order)
    (ord : Comparable ((seen ++ [new]).map (·.suggestion.final)))
    (hfresh : ∀ t ∈ seen, t.suggestion.identityKey ≠ new.suggestion.identityKey) :
    Records (board ++ [(new.suggestion.identityKey, new)]) (seen ++ [new]) where
  nodup := by
    rw [List.map_append, List.nodup_append]
    refine ⟨h.nodup, by simp, ?_⟩
    intro k hk k' hk' heq
    obtain ⟨⟨k, s⟩, hs, rfl⟩ := List.mem_map.mp hk
    obtain ⟨hkey, hlead⟩ := h.leads k s hs
    simp only [List.map_cons, List.map_nil, List.mem_singleton] at hk'
    exact hfresh s hlead.mem (hkey.trans (heq.trans hk'))
  leads k s hs := by
    rcases List.mem_append.mp hs with hs | hs
    · obtain ⟨hkey, hlead⟩ := h.leads k s hs
      exact ⟨hkey, hlead.append horder fun heq => absurd heq.symm (hfresh s hlead.mem)⟩
    · obtain ⟨rfl, rfl⟩ := Prod.mk.inj (List.mem_singleton.mp hs)
      exact ⟨rfl, Standing.leads_append_of_lt ord fun t ht hkey => absurd hkey (hfresh t ht)⟩
  covers t ht := by
    rcases List.mem_append.mp ht with ht | ht
    · obtain ⟨s, hs⟩ := h.covers t ht
      exact ⟨s, List.mem_append_left _ hs⟩
    · obtain rfl := List.mem_singleton.mp ht
      exact ⟨t, by simp⟩

/-- The board with a standing in place of the entry of its identity. -/
def replace (board : Board α) (new : Standing α) : Board α :=
  board.map fun (k, s) => if k == new.suggestion.identityKey then (k, new) else (k, s)

omit [Arith α] in
theorem map_fst_replace : (board.replace new).map (·.1) = board.map (·.1) := by
  rw [replace, List.map_map]
  refine List.map_congr_left fun e _ => ?_
  simp only [Function.comp_apply]
  split <;> rfl

omit [Arith α] in
theorem mem_replace_iff {k : String} {s : Standing α} : (k, s) ∈ board.replace new ↔
    ∃ t, (k, t) ∈ board ∧ s = if k = new.suggestion.identityKey then new else t := by
  simp only [replace, List.mem_map, Prod.exists, beq_iff_eq]
  constructor
  · rintro ⟨k', t, hmem, heq⟩
    split at heq <;> obtain ⟨rfl, rfl⟩ := Prod.mk.inj heq <;> exact ⟨t, hmem, by simp [*]⟩
  · rintro ⟨t, hmem, rfl⟩
    exact ⟨k, t, hmem, by split <;> rfl⟩

/-- An offer that beats the entry of its identity takes the place of that entry. -/
theorem Records.replace (h : board.Records seen) (horder : ∀ t ∈ seen, t.order < new.order)
    (ord : Comparable ((seen ++ [new]).map (·.suggestion.final))) {old : Standing α}
    (hold : (new.suggestion.identityKey, old) ∈ board)
    (hlt : old.suggestion.final < new.suggestion.final) :
    (board.replace new).Records (seen ++ [new]) where
  nodup := by
    rw [map_fst_replace]
    exact h.nodup
  leads k s hs := by
    obtain ⟨t, hmem, rfl⟩ := mem_replace_iff.mp hs
    split
    · next hk =>
      obtain ⟨hkey, hlead⟩ := h.leads _ old hold
      exact ⟨hk.symm, Standing.leads_append_of_lt ord (hlead.lt_of_lt ord hkey hlt)⟩
    · next hk =>
      obtain ⟨hkey, hlead⟩ := h.leads k t hmem
      exact ⟨hkey, hlead.append horder fun hnew => absurd (hkey.symm.trans hnew.symm) hk⟩
  covers t ht := by
    have hcover : ∃ s, (t.suggestion.identityKey, s) ∈ board := by
      rcases List.mem_append.mp ht with ht | ht
      · exact h.covers t ht
      · obtain rfl := List.mem_singleton.mp ht
        exact ⟨old, hold⟩
    obtain ⟨s, hs⟩ := hcover
    exact ⟨_, mem_replace_iff.mpr ⟨s, hs, rfl⟩⟩

/-- An offer that does not beat the entry of its identity changes nothing. -/
theorem Records.pass (h : board.Records seen) (horder : ∀ t ∈ seen, t.order < new.order)
    {old : Standing α} (hold : (new.suggestion.identityKey, old) ∈ board)
    (hnot : ¬old.suggestion.final < new.suggestion.final) :
    board.Records (seen ++ [new]) where
  nodup := h.nodup
  leads k s hs := by
    obtain ⟨rfl, hlead⟩ := h.leads k s hs
    refine ⟨rfl, hlead.append horder fun hnew => ?_⟩
    rw [hnew] at hold
    rw [h.eq_of_mem hs hold]
    exact hnot
  covers t ht := by
    rcases List.mem_append.mp ht with ht | ht
    · exact h.covers t ht
    · obtain rfl := List.mem_singleton.mp ht
      exact ⟨old, hold⟩

/-- The board records a further offer. -/
theorem Records.offer (h : board.Records seen) (horder : ∀ t ∈ seen, t.order < new.order)
    (ord : Comparable ((seen ++ [new]).map (·.suggestion.final))) :
    (board.offer new).Records (seen ++ [new]) := by
  rw [Board.offer]
  cases hlook : board.lookup new.suggestion.identityKey with
  | none => exact h.append horder ord (h.ne_of_lookup_none hlook)
  | some old =>
    have hold : (new.suggestion.identityKey, old) ∈ board := by
      obtain ⟨front, back, heq, -⟩ := List.lookup_eq_some_iff.mp hlook
      simp [heq]
    dsimp only
    split
    · next hlt => exact h.replace horder ord hold hlt
    · next hnot => exact h.pass horder hold hnot

/-- All that is on the board was offered to it. -/
theorem mem_of_mem_offer {k : String} {s : Standing α} (h : (k, s) ∈ board.offer new) :
    (k, s) ∈ board ∨ s = new := by
  rw [Board.offer] at h
  cases hlook : board.lookup new.suggestion.identityKey with
  | none =>
    rw [hlook] at h
    exact (List.mem_append.mp h).imp_right fun h => (Prod.mk.inj (List.mem_singleton.mp h)).2
  | some old =>
    rw [hlook] at h
    dsimp only at h
    split at h
    · obtain ⟨t, ht, rfl⟩ := mem_replace_iff.mp h
      split
      · exact .inr rfl
      · exact .inl ht
    · exact .inl h

theorem mem_of_mem_foldl_offer {k : String} {s : Standing α}
    (h : (k, s) ∈ seen.foldl Board.offer []) : s ∈ seen := by
  induction seen using List.reverseRecOn with
  | nil => simp at h
  | append_singleton seen new ih =>
    rw [List.foldl_append] at h
    rcases mem_of_mem_offer h with h | rfl
    · exact List.mem_append_left _ (ih h)
    · simp

theorem records_nil : Records ([] : Board α) [] where
  nodup := by simp
  leads := by simp
  covers := by simp

end Board

/-- The board records all that was offered to it, in whatever row. -/
theorem records_foldl_offer {seen : List (Standing α)}
    (horder : seen.Pairwise fun s t => s.order < t.order)
    (ord : Comparable (seen.map (·.suggestion.final))) :
    (seen.foldl Board.offer []).Records seen := by
  induction seen using List.reverseRecOn with
  | nil => exact Board.records_nil
  | append_singleton seen new ih =>
    obtain ⟨hpair, -, hlater⟩ := List.pairwise_append.mp horder
    have hord : Comparable (seen.map (·.suggestion.final)) :=
      ord.mono fun x hx => by simp only [List.map_append, List.mem_append, hx, true_or]
    rw [List.foldl_append]
    exact (ih hpair hord).offer (fun t ht => hlater t ht new (by simp)) ord

end DidYouMean

import UriMount.Proofs.Dots

/-!
# How deep a path goes

Two dots take a segment from the stack, and an ordinary segment puts one there. A path
that goes up no more often than it has gone down, wherever it is cut off, leaves alone
what was on the stack before: its dots are carried out as if it stood by itself.
-/

namespace UriMount

open Text

namespace Reference

/-- A segment that goes down: there is something in it, and it is no dot segment. -/
def IsOrdinary (s : Text) : Prop := s ≠ [] ∧ ¬IsDots s

instance (s : Text) : Decidable (IsOrdinary s) := inferInstanceAs (Decidable (s ≠ [] ∧ ¬IsDots s))

/-- Entered at some depth, the segments never go up further: in every first part of the
list at most `depth` more go up than down. -/
def StaysWithin (depth : Nat) (l : List Text) : Prop :=
  ∀ p, p <+: l → p.count up ≤ depth + p.countP (IsOrdinary ·)

instance (depth : Nat) (l : List Text) : Decidable (StaysWithin depth l) :=
  decidable_of_iff (∀ p ∈ l.inits, p.count up ≤ depth + p.countP (IsOrdinary ·))
    (forall_congr' fun p => imp_congr_left (List.mem_inits p l))

theorem isOrdinary_up : ¬IsOrdinary up := fun h => h.2 (Or.inr rfl)

/-- The depth after a first segment is the depth that the others are entered at. -/
theorem staysWithin_cons {depth : Nat} {s : Text} {l : List Text} :
    StaysWithin depth (s :: l) ↔
      ∀ p, p <+: l → (s :: p).count up ≤ depth + (s :: p).countP (IsOrdinary ·) := by
  constructor
  · exact fun h p hp => h (s :: p) ((List.prefix_cons_inj s).mpr hp)
  · intro h p hp
    rcases List.prefix_cons_iff.mp hp with rfl | ⟨t, rfl, ht⟩
    · exact Nat.zero_le _
    · exact h t ht

/-- Going up needs some depth and uses one of it. -/
theorem staysWithin_up {depth : Nat} {l : List Text} :
    StaysWithin depth (up :: l) ↔ ∃ above, depth = above + 1 ∧ StaysWithin above l := by
  rw [staysWithin_cons]
  simp only [List.count_cons_self, List.countP_cons, isOrdinary_up, decide_false,
    Bool.false_eq_true, ite_false, Nat.add_zero]
  constructor
  · intro h
    have hpos := h [] List.nil_prefix
    rw [List.count_nil, List.countP_nil] at hpos
    refine ⟨depth - 1, by omega, fun p hp => ?_⟩
    have hp := h p hp
    omega
  · rintro ⟨above, rfl, h⟩ p hp
    have hp := h p hp
    omega

/-- Going down adds to the depth. -/
theorem staysWithin_ordinary {depth : Nat} {s : Text} {l : List Text} (hs : IsOrdinary s) :
    StaysWithin depth (s :: l) ↔ StaysWithin (depth + 1) l := by
  have hup : s ≠ up := fun he => isOrdinary_up (he ▸ hs)
  rw [staysWithin_cons]
  simp only [List.count_cons_of_ne hup, List.countP_cons, hs, decide_true, ite_true]
  exact forall₂_congr fun p _ => by omega

/-- An empty segment and one that stays in place do not change the depth. -/
theorem staysWithin_idle {depth : Nat} {s : Text} {l : List Text} (hs : s = [] ∨ s = here) :
    StaysWithin depth (s :: l) ↔ StaysWithin depth l := by
  have hup : s ≠ up := by rcases hs with rfl | rfl <;> decide
  have hordinary : ¬IsOrdinary s := by rcases hs with rfl | rfl <;> decide
  rw [staysWithin_cons]
  simp only [List.count_cons_of_ne hup, List.countP_cons, hordinary, decide_false,
    Bool.false_eq_true, ite_false, Nat.add_zero]
  rfl

/-- Every segment goes up, goes down or does neither. -/
theorem segment_cases (s : Text) : s = up ∨ IsOrdinary s ∨ s = [] ∨ s = here := by
  by_cases hn : s = []
  · exact Or.inr (Or.inr (Or.inl hn))
  · by_cases hd : IsDots s
    · rcases hd with rfl | rfl
      · exact Or.inr (Or.inr (Or.inr rfl))
      · exact Or.inl rfl
    · exact Or.inr (Or.inl ⟨hn, hd⟩)

/-- Empty segments may be dropped. -/
theorem StaysWithin.filter_append {depth : Nat} {l r : List Text}
    (h : StaysWithin depth (l ++ r)) : StaysWithin depth (l.filter (· != []) ++ r) := by
  induction l generalizing depth with
  | nil => exact h
  | cons s l ih =>
    rw [List.cons_append] at h
    by_cases hn : s = []
    · rw [List.filter_cons_of_neg (by simp only [hn, bne_self_eq_false, Bool.false_eq_true,
        not_false_eq_true])]
      exact ih ((staysWithin_idle (Or.inl hn)).mp h)
    · rw [List.filter_cons_of_pos (by simpa only [bne_iff_ne] using hn), List.cons_append]
      rcases segment_cases s with rfl | hs | hs
      · obtain ⟨above, rfl, hl⟩ := staysWithin_up.mp h
        exact staysWithin_up.mpr ⟨above, rfl, ih hl⟩
      · exact (staysWithin_ordinary hs).mpr (ih ((staysWithin_ordinary hs).mp h))
      · exact (staysWithin_idle hs).mpr (ih ((staysWithin_idle hs).mp h))

/-- What lies deeper on the stack than the segments go up is not touched. -/
theorem StaysWithin.foldl_visit_append {l visited : List Text} {depth : Nat}
    (h : StaysWithin depth l) (hd : depth ≤ visited.length) (bottom : List Text) :
    l.foldl visit (visited ++ bottom) = l.foldl visit visited ++ bottom := by
  induction l generalizing visited depth with
  | nil => rfl
  | cons s l ih =>
    rw [List.foldl_cons, List.foldl_cons]
    rcases segment_cases s with rfl | hs | hs | rfl
    · obtain ⟨above, rfl, hl⟩ := staysWithin_up.mp h
      cases visited with
      | nil => exact absurd hd (Nat.not_succ_le_zero above)
      | cons t visited => exact ih hl (Nat.le_of_succ_le_succ hd)
    · rw [visit_of_not_isDots hs.2, visit_of_not_isDots hs.2]
      exact @ih (s :: visited) _ ((staysWithin_ordinary hs).mp h) (Nat.succ_le_succ hd)
    · subst hs
      -- an empty segment that was not dropped lies on the stack and makes it only higher
      exact @ih ([] :: visited) _ ((staysWithin_idle (Or.inl rfl)).mp h) (Nat.le_succ_of_le hd)
    · exact ih ((staysWithin_idle (Or.inr rfl)).mp h) hd

/-- Behind segments without dots, the others are carried out by themselves if they never
go up above where they begin. -/
theorem StaysWithin.withoutDots_append {l r : List Text} {z : Text}
    (h : StaysWithin 0 (r ++ [z])) (hl : ∀ s ∈ l, ¬IsDots s) :
    withoutDots (l ++ r ++ [z]) = l ++ withoutDots (r ++ [z]) := by
  have hfold : (r ++ [z]).foldl visit l.reverse = (r ++ [z]).foldl visit [] ++ l.reverse :=
    @StaysWithin.foldl_visit_append _ [] _ h (Nat.zero_le 0) l.reverse
  simp only [withoutDots, List.append_assoc, List.getLast?_append_of_ne_nil _
    (List.append_ne_nil_of_right_ne_nil r (List.cons_ne_nil z []))]
  rw [List.foldl_append, foldl_visit_of_not_isDots hl, List.append_nil, hfold,
    List.reverse_append, List.reverse_reverse, List.append_assoc]

/-- Without dot segments there is nothing to carry out. -/
theorem withoutDots_of_forall {l : List Text} (h : ∀ s ∈ l, ¬IsDots s) : withoutDots l = l := by
  have hlast : ¬(l.getLast? = some here ∨ l.getLast? = some up) := by
    rintro (hl | hl)
    · exact h here (List.mem_of_getLast? hl) (Or.inl rfl)
    · exact h up (List.mem_of_getLast? hl) (Or.inr rfl)
  simp only [withoutDots, foldl_visit_of_not_isDots h, hlast, ite_false, List.append_nil,
    List.reverse_reverse]

end Reference

end UriMount

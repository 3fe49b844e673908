import UriMount.Text.Basic
import Mathlib.Data.List.DropRight
import Mathlib.Data.List.TakeWhile

/-!
# Cuts of joined texts

A cut at a mark meets a text that was put together from parts. These lemmas say
which part the cut falls into, and which characters the parts of a cut hold. Cuts
at the end of a text are `List.rdropWhile` and `List.rtakeWhile` by definition, so
what the library says of those is said of them.
-/

namespace UriMount.Text

variable {c x : Char} {s t : Text}

/-! ## The first mark -/

private theorem bne_of_not_mem (h : c ∉ t) : ∀ x ∈ t, (x != c) = true :=
  fun _ hx => bne_iff_ne.mpr fun he => h (he ▸ hx)

/-- A text without the mark loses nothing to the cut. -/
theorem before_of_not_mem (h : c ∉ t) : before c t = t :=
  List.takeWhile_eq_self_iff.mpr (bne_of_not_mem h)

/-- Nothing stands behind a mark that does not occur. -/
theorem after_of_not_mem (h : c ∉ t) : after c t = [] := by
  rw [after, List.dropWhile_eq_nil_iff.mpr (bne_of_not_mem h), List.tail_nil]

/-- The part in front of the first mark does not hold it. -/
theorem not_mem_before (c : Char) (t : Text) : c ∉ before c t :=
  fun h => bne_iff_ne.mp (List.mem_takeWhile_imp (p := (· != c)) h) rfl

/-- The first cut takes out one mark and nothing else. -/
theorem before_append_after (h : c ∈ t) : before c t ++ c :: after c t = t := by
  have hcut : t.dropWhile (· != c) = c :: after c t := by
    cases hd : t.dropWhile (· != c) with
    | nil => exact absurd rfl (bne_iff_ne.mp (List.dropWhile_eq_nil_iff.mp hd c h))
    | cons x r =>
      have hx := List.head?_dropWhile_not (· != c) t
      simp only [hd, List.head?_cons, bne_eq_false_iff_eq] at hx
      rw [after, hd, hx, List.tail_cons]
  rw [← hcut]
  exact List.takeWhile_append_dropWhile

/-- A first part without the mark is passed over. -/
theorem before_append (h : c ∉ s) (t : Text) : before c (s ++ t) = s ++ before c t :=
  List.takeWhile_append_of_pos (bne_of_not_mem h)

/-- Passing over a first part without the mark does not change what is behind the mark. -/
theorem after_append (h : c ∉ s) (t : Text) : after c (s ++ t) = after c t := by
  rw [after, after, List.dropWhile_append_of_pos (bne_of_not_mem h)]

@[simp] theorem before_cons_self (c : Char) (t : Text) : before c (c :: t) = [] := by
  simp [before]

@[simp] theorem after_cons_self (c : Char) (t : Text) : after c (c :: t) = t := by
  simp [after]

@[simp] theorem before_nil (c : Char) : before c [] = [] := rfl

@[simp] theorem after_nil (c : Char) : after c [] = [] := rfl

/-- A marked part stands behind the cut. -/
theorem before_append_marked (h : c ∉ s) (t : Text) : before c (s ++ marked c t) = s := by
  rw [before_append h, marked]
  split <;> simp

/-- A marked part is read back as it was. -/
theorem after_append_marked (h : c ∉ s) (t : Text) : after c (s ++ marked c t) = t := by
  rw [after_append h, marked]
  split
  · rename_i ht
    rw [ht, after_nil]
  · exact after_cons_self c t

/-- The last cut takes out nothing. -/
theorem throughLast_append_afterLast (c : Char) (t : Text) :
    throughLast c t ++ afterLast c t = t := List.rdropWhile_append_rtakeWhile

theorem before_isPrefix (c : Char) (t : Text) : before c t <+: t := List.takeWhile_prefix _

theorem mem_of_mem_before (h : x ∈ before c t) : x ∈ t := List.takeWhile_subset _ h

theorem mem_of_mem_after (h : x ∈ after c t) : x ∈ t :=
  List.dropWhile_subset _ (List.mem_of_mem_tail h)

theorem mem_of_mem_throughLast (h : x ∈ throughLast c t) : x ∈ t := by
  rw [← throughLast_append_afterLast c t]
  exact List.mem_append_left _ h

theorem mem_of_mem_afterLast (h : x ∈ afterLast c t) : x ∈ t := by
  rw [← throughLast_append_afterLast c t]
  exact List.mem_append_right _ h

/-- A marked part holds its own characters and the mark. -/
theorem mem_marked (h : x ∈ marked c t) : x = c ∨ x ∈ t := by
  unfold marked at h
  split at h
  · cases h
  · exact List.mem_cons.mp h

private theorem append_eq_cut (h : c ∈ s) (t : Text) :
    s ++ t = before c s ++ c :: (after c s ++ t) := by
  rw [← List.cons_append, ← List.append_assoc, before_append_after h]

/-- A mark in the first part is found there. -/
theorem before_append_of_mem (h : c ∈ s) (t : Text) : before c (s ++ t) = before c s := by
  rw [append_eq_cut h, before_append (not_mem_before c s), before_cons_self, List.append_nil]

/-- Behind a mark in the first part, the second part follows. -/
theorem after_append_of_mem (h : c ∈ s) (t : Text) : after c (s ++ t) = after c s ++ t := by
  rw [append_eq_cut h, after_append (not_mem_before c s), after_cons_self]

/-! ## Trimming -/

/-- Dropping a first part keeps all characters of other kinds. -/
theorem mem_dropWhile_iff {drops : Char → Bool} (hx : drops x = false) :
    x ∈ t.dropWhile drops ↔ x ∈ t := by
  refine ⟨fun h => List.dropWhile_subset _ h, fun h => ?_⟩
  rw [← List.takeWhile_append_dropWhile (p := drops) (l := t), List.mem_append] at h
  refine h.resolve_left fun hm => ?_
  have hd := List.mem_takeWhile_imp hm
  rw [hx] at hd
  cases hd

/-- Trimming the end keeps all characters of other kinds. -/
theorem mem_trimEnd_iff {drops : Char → Bool} (hx : drops x = false) :
    x ∈ trimEnd drops t ↔ x ∈ t := by
  rw [trimEnd, List.mem_reverse, mem_dropWhile_iff hx, List.mem_reverse]

/-- Trimming both ends keeps all characters of other kinds. -/
theorem mem_trim_iff {drops : Char → Bool} (hx : drops x = false) :
    x ∈ trim drops t ↔ x ∈ t := by
  rw [trim, mem_trimEnd_iff hx, mem_dropWhile_iff hx]

/-- A text that starts with a character of another kind loses nothing at its start. -/
theorem dropWhile_of_head? {drops : Char → Bool} (h : ∀ x, t.head? = some x → drops x = false) :
    t.dropWhile drops = t := by
  cases t with
  | nil => rfl
  | cons x t =>
    rw [List.dropWhile_cons_of_neg]
    simp only [h x List.head?_cons, Bool.false_eq_true, not_false_eq_true]

/-- A part that is not dropped protects what stands in front of it. -/
theorem trimEnd_append {drops : Char → Bool} (h : ∀ x, s.getLast? = some x → drops x = false)
    (t : Text) : trimEnd drops (s ++ t) = s ++ trimEnd drops t := by
  have hs : s.reverse.dropWhile drops = s.reverse :=
    dropWhile_of_head? fun x hx => h x (by rwa [← List.head?_reverse])
  simp only [trimEnd, List.reverse_append, List.dropWhile_append, hs, List.isEmpty_iff]
  split
  · rename_i ht
    rw [ht, List.reverse_nil, List.append_nil, List.reverse_reverse]
  · rw [List.reverse_append, List.reverse_reverse]

/-- A text that ends with a character of another kind loses nothing at its end. -/
theorem trimEnd_of_getLast? {drops : Char → Bool}
    (h : ∀ x, t.getLast? = some x → drops x = false) :
    trimEnd drops t = t := by
  have ht := trimEnd_append h []
  have hn : trimEnd drops [] = [] := rfl
  rwa [hn, List.append_nil] at ht

/-- Dropped characters behind a text make no difference. -/
theorem trimEnd_append_of_forall {drops : Char → Bool} (h : ∀ x ∈ t, drops x = true) :
    trimEnd drops (s ++ t) = trimEnd drops s := by
  rw [trimEnd, List.reverse_append, List.dropWhile_append_of_pos]
  · rfl
  · exact fun x hx => h x (List.mem_reverse.mp hx)

/-- Trimming the end takes dropped characters away and nothing else. -/
theorem exists_trimEnd_append (drops : Char → Bool) (t : Text) :
    ∃ tail, trimEnd drops t ++ tail = t ∧ ∀ x ∈ tail, drops x = true :=
  ⟨t.rtakeWhile drops, List.rdropWhile_append_rtakeWhile, fun _ => List.mem_rtakeWhile_imp⟩

/-- Dropped characters in front of a text make no difference to trimming. -/
theorem trim_append_of_forall_left {drops : Char → Bool} (h : ∀ x ∈ s, drops x = true) (t : Text) :
    trim drops (s ++ t) = trim drops t := by
  rw [trim, List.dropWhile_append_of_pos h, trim]

/-- Dropped characters behind a text make no difference to trimming. -/
theorem trim_append_of_forall {drops : Char → Bool} (h : ∀ x ∈ t, drops x = true) (s : Text) :
    trim drops (s ++ t) = trim drops s := by
  rw [trim, trim, List.dropWhile_append]
  split
  · rename_i hn
    rw [List.isEmpty_iff.mp hn, List.dropWhile_eq_nil_iff.mpr h]
  · exact trimEnd_append_of_forall h

/-- A text that ends with a character of another kind is trimmed at its start, and what stands
behind it at its end. -/
theorem trim_append {drops : Char → Bool} (hne : s ≠ [])
    (h : ∀ x, s.getLast? = some x → drops x = false) (t : Text) :
    trim drops (s ++ t) = trim drops s ++ trimEnd drops t := by
  have hkept : s.dropWhile drops ≠ [] :=
    List.ne_nil_of_mem ((mem_dropWhile_iff (h _ (List.getLast?_eq_some_getLast hne))).mpr
      (List.getLast_mem hne))
  have hlast : ∀ x, (s.dropWhile drops).getLast? = some x → drops x = false := by
    intro x hx
    apply h
    rw [← List.takeWhile_append_dropWhile (p := drops) (l := s), List.getLast?_append, hx,
      Option.some_or]
  rw [trim, List.dropWhile_append, if_neg (by rwa [List.isEmpty_iff]), trimEnd_append hlast, trim,
    trimEnd_of_getLast? hlast]

/-! ## The last mark -/

/-- The part behind the last mark does not hold it. -/
theorem not_mem_afterLast (c : Char) (t : Text) : c ∉ afterLast c t :=
  fun h => bne_iff_ne.mp (List.mem_rtakeWhile_imp (p := (· != c)) h) rfl

/-- The last mark is behind a mark that is followed by another one. -/
theorem afterLast_append_cons (c : Char) (s t : Text) :
    afterLast c (s ++ c :: t) = afterLast c t := by
  simp only [afterLast, List.reverse_append, List.reverse_cons, List.append_assoc,
    List.singleton_append, List.takeWhile_append, bne_self_eq_false, Bool.false_eq_true,
    List.takeWhile_cons, ite_false, List.append_nil]
  split
  · rename_i h
    rw [(List.takeWhile_sublist _).eq_of_length h]
  · rfl

/-- The part that ends with the last mark keeps everything in front of an earlier one. -/
theorem throughLast_append_cons (c : Char) (s t : Text) :
    throughLast c (s ++ c :: t) = s ++ c :: throughLast c t := by
  have h := throughLast_append_afterLast c (s ++ c :: t)
  rw [afterLast_append_cons] at h
  have he : (s ++ c :: throughLast c t) ++ afterLast c t = s ++ c :: t := by
    rw [List.append_assoc, List.cons_append, throughLast_append_afterLast]
  exact List.append_cancel_right (h.trans he.symm)

/-- The part that ends with the last mark is empty or does end with it. -/
theorem throughLast_eq_nil_or (c : Char) (t : Text) :
    throughLast c t = [] ∨ ∃ s, throughLast c t = s ++ [c] := by
  cases h : t.reverse.dropWhile (· != c) with
  | nil => exact Or.inl (by rw [throughLast, h, List.reverse_nil])
  | cons x r =>
    have hx := List.head?_dropWhile_not (· != c) t.reverse
    simp only [h, List.head?_cons, bne_eq_false_iff_eq] at hx
    exact Or.inr ⟨r.reverse, by rw [throughLast, h, List.reverse_cons, hx]⟩

/-- Text without the mark is put behind the last mark. -/
theorem afterLast_append (h : c ∉ s) (t : Text) : afterLast c (t ++ s) = afterLast c t ++ s := by
  have hs : c ∉ s.reverse := mt List.mem_reverse.mp h
  rw [afterLast, List.reverse_append, List.takeWhile_append_of_pos (bne_of_not_mem hs),
    List.reverse_append, List.reverse_reverse, afterLast]

/-- Text without the mark does not change the part that ends with the last mark. -/
theorem throughLast_append (h : c ∉ s) (t : Text) : throughLast c (t ++ s) = throughLast c t := by
  have hs : c ∉ s.reverse := mt List.mem_reverse.mp h
  rw [throughLast, List.reverse_append, List.dropWhile_append_of_pos (bne_of_not_mem hs),
    throughLast]

/-- A text without the mark stands behind the last one as a whole. -/
theorem afterLast_of_not_mem (h : c ∉ t) : afterLast c t = t := afterLast_append h []

/-- A text that ends with the mark has nothing behind it. -/
theorem afterLast_of_getLast? (h : t.getLast? = some c) : afterLast c t = [] := by
  obtain ⟨s, rfl⟩ := List.getLast?_eq_some_iff.mp h
  exact afterLast_append_cons c s []

/-! ## Pieces between marks -/

/-- No piece holds the mark. -/
theorem not_mem_of_mem_splitOn {p : Text} (h : p ∈ t.splitOn c) : c ∉ p := by
  induction t generalizing p with
  | nil =>
    rw [List.splitOn_nil, List.mem_singleton] at h
    exact h ▸ List.not_mem_nil
  | cons x t ih =>
    rw [List.splitOn_cons_eq_if_modifyHead] at h
    split at h
    · rcases List.mem_cons.mp h with rfl | hp
      · exact List.not_mem_nil
      · exact ih hp
    · rename_i hx
      obtain ⟨q, qs, hq⟩ := List.exists_cons_of_ne_nil (List.splitOn_ne_nil c t)
      rw [hq, List.modifyHead_cons] at h
      rcases List.mem_cons.mp h with rfl | hp
      · have hcq : c ∉ q := ih (hq ▸ List.mem_cons_self ..)
        exact fun hc => (List.mem_cons.mp hc).elim (fun he => hx (beq_iff_eq.mpr he.symm)) hcq
      · exact ih (hq ▸ List.mem_cons_of_mem _ hp)

/-- Joined pieces hold the characters of the pieces and the mark. -/
theorem mem_intercalate {pieces : List Text} (h : x ∈ [c].intercalate pieces) :
    x = c ∨ ∃ p ∈ pieces, x ∈ p := by
  induction pieces with
  | nil => cases h
  | cons p ps ih =>
    cases ps with
    | nil =>
      rw [List.intercalate_singleton] at h
      exact Or.inr ⟨p, List.mem_cons_self .., h⟩
    | cons q qs =>
      rw [List.intercalate_cons_cons, List.mem_append, List.mem_append, List.mem_singleton] at h
      rcases h with (h | h) | h
      · exact Or.inr ⟨p, List.mem_cons_self .., h⟩
      · exact Or.inl h
      · rcases ih h with h | ⟨r, hr, hx⟩
        · exact Or.inl h
        · exact Or.inr ⟨r, List.mem_cons_of_mem _ hr, hx⟩

/-- Joining loses no character of a piece. -/
theorem mem_intercalate_of_mem {pieces : List Text} {p : Text} (hp : p ∈ pieces) (hx : x ∈ p) :
    x ∈ [c].intercalate pieces := by
  induction pieces with
  | nil => cases hp
  | cons q ps ih =>
    cases ps with
    | nil =>
      rw [List.mem_singleton] at hp
      rwa [List.intercalate_singleton, ← hp]
    | cons r rs =>
      rw [List.intercalate_cons_cons, List.mem_append, List.mem_append]
      rcases List.mem_cons.mp hp with rfl | hp
      · exact Or.inl (Or.inl hx)
      · exact Or.inr (ih hp)

/-- The characters of a piece are characters of the text. -/
theorem mem_of_mem_splitOn {p : Text} (hp : p ∈ t.splitOn c) (hx : x ∈ p) : x ∈ t := by
  simpa only [List.intercalate_splitOn] using mem_intercalate_of_mem (c := c) hp hx

end UriMount.Text

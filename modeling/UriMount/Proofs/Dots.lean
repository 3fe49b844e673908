import UriMount.Reference
import UriMount.Proofs.Reading

/-!
# Paths under the root

Dot segments are carried out on a stack on which the empty segment in front of
the first slash lies at the bottom. Two dots too many take it away, and writing
puts the slash back. These lemmas do without that segment: a merged path is the
root followed by the segments that the dots leave of a trail.
-/

namespace UriMount.Reference

open Text

/-- The path with a slash in front of every segment. -/
def underRoot (segments : List Text) : Text := segments.flatMap ('/' :: ·)

@[simp] theorem underRoot_nil : underRoot [] = [] := rfl

@[simp] theorem underRoot_cons (s : Text) (l : List Text) :
    underRoot (s :: l) = '/' :: (s ++ underRoot l) := rfl

@[simp] theorem underRoot_append (l r : List Text) :
    underRoot (l ++ r) = underRoot l ++ underRoot r := List.flatMap_append

/-- Joined segments are the first one and the others under it. -/
theorem intercalate_cons (s : Text) (l : List Text) :
    ['/'].intercalate (s :: l) = s ++ underRoot l := by
  induction l generalizing s with
  | nil => rw [List.intercalate_singleton, underRoot_nil, List.append_nil]
  | cons t l ih =>
    rw [List.intercalate_cons_cons, ih, List.append_assoc, List.singleton_append, underRoot_cons]

/-! ## Segments -/

/-- There is always a first segment. -/
theorem segments_ne_nil (path : Text) : segments path ≠ [] := List.splitOn_ne_nil '/' path

/-- Joining the segments of a path gives the path back. -/
theorem intercalate_segments (path : Text) : ['/'].intercalate (segments path) = path :=
  List.intercalate_splitOn '/'

/-- Joined segments are found again. -/
theorem segments_intercalate {l : List Text} (hne : l ≠ []) (h : ∀ s ∈ l, '/' ∉ s) :
    segments (['/'].intercalate l) = l := List.splitOn_intercalate '/' h hne

/-- A slash between two paths divides their segments. -/
theorem segments_append_slash (s t : Text) :
    segments (s ++ '/' :: t) = segments s ++ segments t := List.splitOn_append_cons_self s t

/-- A slash in front of a path puts an empty segment in front. -/
theorem segments_cons_slash (t : Text) : segments ('/' :: t) = [] :: segments t :=
  segments_append_slash [] t

/-- Any other character in front of a path belongs to its first segment. -/
theorem segments_cons_of_ne {c : Char} (hc : c ≠ '/') (t : Text) :
    segments (c :: t) = (segments t).modifyHead (c :: ·) := by
  rw [segments, List.splitOn_cons_eq_if_modifyHead, if_neg (mt eq_of_beq hc), segments]

/-- The segments of a path under the root follow an empty one. -/
theorem segments_underRoot {l : List Text} (h : ∀ s ∈ l, '/' ∉ s) :
    segments (underRoot l) = [] :: l := by
  have hs : ∀ s ∈ [] :: l, '/' ∉ s := List.forall_mem_cons.mpr ⟨List.not_mem_nil, h⟩
  rw [← List.nil_append (underRoot l), ← intercalate_cons,
    segments_intercalate (List.cons_ne_nil [] l) hs]

/-- The first segment of a rooted path is empty. -/
theorem segments_of_isRooted {path : Text} (h : IsRooted path) :
    segments path = [] :: (segments path).tail := by
  rcases h with rfl | h
  · rfl
  · cases path with
    | nil => cases h
    | cons c t =>
      cases h
      rw [segments_cons_slash, List.tail_cons]

/-- A rooted path is the root and its segments behind the first one. -/
theorem underRoot_tail_segments {path : Text} (h : IsRooted path) :
    underRoot (segments path).tail = path := by
  rw [← List.nil_append (underRoot _), ← intercalate_cons, ← segments_of_isRooted h,
    intercalate_segments]

/-- Only the last segment changes when the text behind the last slash is replaced. -/
theorem segments_throughLast_append (path t : Text) :
    segments (throughLast '/' path ++ t) = (segments path).dropLast ++ segments t := by
  have hlast : segments (afterLast '/' path) = [afterLast '/' path] :=
    List.splitOn_eq_singleton (not_mem_afterLast '/' path)
  have hcut := throughLast_append_afterLast '/' path
  rcases throughLast_eq_nil_or '/' path with h | ⟨s, h⟩
  · rw [h, List.nil_append] at hcut
    rw [h, ← hcut, hlast]
    rfl
  · rw [h, List.append_assoc, List.singleton_append] at hcut
    have hsegments : segments path = segments s ++ [afterLast '/' path] := by
      rw [← hlast, ← segments_append_slash, hcut]
    rw [h, List.append_assoc, List.singleton_append, segments_append_slash, hsegments,
      List.dropLast_concat]

/-- The last segment stands behind the last slash. -/
theorem segments_eq_concat (path : Text) :
    segments path = (segments path).dropLast ++ [afterLast '/' path] := by
  have hlast : segments (afterLast '/' path) = [afterLast '/' path] :=
    List.splitOn_eq_singleton (not_mem_afterLast '/' path)
  rw [← hlast, ← segments_throughLast_append, throughLast_append_afterLast]

/-- No segment holds a slash. -/
theorem not_mem_of_mem_segments {path s : Text} (h : s ∈ segments path) : '/' ∉ s :=
  not_mem_of_mem_splitOn h

/-! ## Carrying out dot segments -/

/-- A segment that is carried out and not kept. -/
def IsDots (s : Text) : Prop := s = here ∨ s = up

instance (s : Text) : Decidable (IsDots s) := inferInstanceAs (Decidable (s = here ∨ s = up))

theorem visit_up (visited : List Text) : visit visited up = visited.tail := rfl

theorem visit_here (visited : List Text) : visit visited here = visited := rfl

theorem visit_of_not_isDots {s : Text} (h : ¬IsDots s) (visited : List Text) :
    visit visited s = s :: visited := by
  simp only [visit, not_or.mp h, ite_false]

/-- What is kept was there before or is no dot segment. -/
theorem mem_foldl_visit {l visited : List Text} {s : Text} (h : s ∈ l.foldl visit visited) :
    s ∈ visited ∨ s ∈ l ∧ ¬IsDots s := by
  induction l generalizing visited with
  | nil => exact Or.inl h
  | cons t l ih =>
    rw [List.foldl_cons] at h
    rcases ih h with hv | ⟨hl, hn⟩
    · by_cases ht : IsDots t
      · rcases ht with rfl | rfl
        · exact Or.inl hv
        · exact Or.inl (List.mem_of_mem_tail hv)
      · rw [visit_of_not_isDots ht] at hv
        rcases List.mem_cons.mp hv with rfl | hv
        · exact Or.inr ⟨List.mem_cons_self .., ht⟩
        · exact Or.inl hv
    · exact Or.inr ⟨List.mem_cons_of_mem _ hl, hn⟩

/-- Segments that are no dot segments are all kept. -/
theorem foldl_visit_of_not_isDots {l : List Text} (h : ∀ s ∈ l, ¬IsDots s) (visited : List Text) :
    l.foldl visit visited = l.reverse ++ visited := by
  induction l generalizing visited with
  | nil => rfl
  | cons s l ih =>
    rw [List.foldl_cons, visit_of_not_isDots (h s (List.mem_cons_self ..)),
      ih fun t ht => h t (List.mem_cons_of_mem _ ht), List.reverse_cons, List.append_assoc,
      List.singleton_append]

/-- A segment at the bottom of the stack stays there or is taken away for good,
and does not matter to the segments above it. -/
theorem foldl_visit_concat (l visited : List Text) (bottom : Text) :
    l.foldl visit (visited ++ [bottom]) = l.foldl visit visited ++ [bottom] ∨
      l.foldl visit (visited ++ [bottom]) = l.foldl visit visited := by
  induction l generalizing visited with
  | nil => exact Or.inl rfl
  | cons s l ih =>
    simp only [List.foldl_cons]
    by_cases hs : IsDots s
    · rcases hs with rfl | rfl
      · exact ih visited
      · cases visited with
        | nil => exact Or.inr rfl
        | cons t visited => exact ih visited
    · simp only [visit_of_not_isDots hs]
      exact ih (s :: visited)

/-- A last segment that is no dot segment is kept behind what is kept before it. -/
theorem withoutDots_concat {z : Text} (hz : ¬IsDots z) (l : List Text) :
    withoutDots (l ++ [z]) = (l.foldl visit []).reverse ++ [z] := by
  have hz' : ¬(z = here ∨ z = up) := hz
  simp only [withoutDots, List.foldl_append, List.foldl_cons, List.foldl_nil,
    List.getLast?_concat, Option.some.injEq, visit_of_not_isDots hz, List.reverse_cons, hz',
    ite_false, List.append_nil]

/-- A dot segment at the end leaves an empty segment in its place. -/
theorem withoutDots_concat_of_isDots {z : Text} (hz : IsDots z) (l : List Text) :
    withoutDots (l ++ [z]) = (visit (l.foldl visit []) z).reverse ++ [[]] := by
  have hz' : z = here ∨ z = up := hz
  simp only [withoutDots, List.foldl_append, List.foldl_cons, List.foldl_nil,
    List.getLast?_concat, Option.some.injEq, hz', ite_true]

/-- What the dots leave of a list with a last segment: kept segments, and at the
end the last one or, in its place, an empty one. -/
theorem exists_withoutDots_concat (l : List Text) (z : Text) :
    ∃ kept last, withoutDots (l ++ [z]) = kept ++ [last] ∧ (∀ s ∈ kept, s ∈ l ∧ ¬IsDots s) ∧
      (last = z ∨ last = []) ∧ ¬IsDots last := by
  have hkept : ∀ s ∈ l.foldl visit [], s ∈ l ∧ ¬IsDots s := fun s hs =>
    (mem_foldl_visit hs).resolve_left (List.not_mem_nil)
  by_cases hz : IsDots z
  · refine ⟨_, [], withoutDots_concat_of_isDots hz l, fun s hs => ?_, Or.inr rfl, by decide⟩
    rw [List.mem_reverse] at hs
    rcases hz with rfl | rfl
    · exact hkept s hs
    · exact hkept s (List.mem_of_mem_tail hs)
  · exact ⟨_, z, withoutDots_concat hz l, fun s hs => hkept s (List.mem_reverse.mp hs),
      Or.inl rfl, hz⟩

/-- Carrying out a first part beforehand makes no difference. -/
theorem withoutDots_reverse_foldl_append (l r : List Text) (z : Text) :
    withoutDots ((l.foldl visit []).reverse ++ r ++ [z]) = withoutDots (l ++ r ++ [z]) := by
  have hkept : ∀ s ∈ (l.foldl visit []).reverse, ¬IsDots s := fun s hs =>
    ((mem_foldl_visit (List.mem_reverse.mp hs)).resolve_left List.not_mem_nil).2
  simp only [withoutDots, List.getLast?_concat, List.foldl_append,
    foldl_visit_of_not_isDots hkept, List.reverse_reverse, List.append_nil]

/-- A leading empty segment stays in front or is taken away for good. -/
theorem withoutDots_nil_cons (l : List Text) (z : Text) :
    withoutDots ([] :: (l ++ [z])) = [] :: withoutDots (l ++ [z]) ∨
      withoutDots ([] :: (l ++ [z])) = withoutDots (l ++ [z]) := by
  have hv : visit [] [] = [[]] := rfl
  simp only [withoutDots, ← List.cons_append, List.getLast?_concat]
  simp only [List.cons_append, List.foldl_cons, hv]
  rcases foldl_visit_concat (l ++ [z]) [] [] with h | h
  · rw [List.nil_append] at h
    rw [h, List.reverse_append]
    exact Or.inl rfl
  · rw [List.nil_append] at h
    rw [h]
    exact Or.inr rfl

/-! ## Merged paths -/

theorem mem_of_mem_dropInnerEmpty {l : List Text} {s : Text} (h : s ∈ dropInnerEmpty l) :
    s ∈ l := by
  cases l with
  | nil => exact h
  | cons t l =>
    simp only [dropInnerEmpty, List.cons_append, List.mem_cons, List.mem_append, List.mem_filter,
      Option.mem_toList] at h
    rcases h with h | h | h
    · exact h ▸ List.mem_cons_self ..
    · exact List.mem_cons_of_mem _ (List.dropLast_subset _ h.1)
    · exact List.mem_cons_of_mem _ (List.mem_of_getLast? h)

/-- Merging brings no new segments. -/
theorem mem_merge {base path s : Text} (h : s ∈ merge base path) :
    s ∈ segments base ∨ s ∈ segments path := by
  unfold merge at h
  split at h
  · exact Or.inr h
  · rcases List.mem_append.mp (mem_of_mem_dropInnerEmpty h) with h | h
    · unfold directory at h
      split at h
      · exact Or.inl h
      · exact Or.inl (List.dropLast_subset _ h)
    · exact Or.inr h

theorem not_mem_of_mem_merge {base path s : Text} (h : s ∈ merge base path) : '/' ∉ s := by
  rcases mem_merge h with h | h
  · exact not_mem_of_mem_segments h
  · exact not_mem_of_mem_segments h

theorem mergedPath_of_intercalate_eq_nil {base path : Text}
    (h : ['/'].intercalate (withoutDots (merge base path)) = []) :
    mergedPath base path = ['/'] := by
  rw [mergedPath, h]

theorem mergedPath_of_intercalate_ne_nil {base path : Text}
    (h : ['/'].intercalate (withoutDots (merge base path)) ≠ []) :
    mergedPath base path = ['/'].intercalate (withoutDots (merge base path)) := by
  unfold mergedPath
  split
  · rename_i hn
    exact absurd hn h
  · rfl

/-- A rooted path replaces the base path. -/
theorem mergedPath_eq_of_head? {path : Text} (h : path.head? = some '/') (other base : Text) :
    mergedPath other path = mergedPath base path := by
  simp only [mergedPath, merge, h, ite_true]

/-- A path that starts with a segment gets a slash in front. -/
theorem rooted_append {s : Text} (hne : s ≠ []) (hs : '/' ∉ s) (t : Text) :
    Uri.rooted (s ++ t) = '/' :: (s ++ t) := by
  cases s with
  | nil => exact absurd rfl hne
  | cons c s =>
    have hc : c ≠ '/' := fun he => hs (he ▸ List.mem_cons_self ..)
    simp only [Uri.rooted, List.cons_append, List.cons_ne_nil, List.head?_cons, Option.some.injEq,
      hc, or_self, ite_false]

/-- A merged path is rooted: the empty segment in front of the first slash can be
left out when the dots are carried out, if no other one stands before the last. -/
theorem rooted_mergedPath {base path : Text} {l : List Text} {z : Text}
    (hm : merge base path = [] :: (l ++ [z])) (hl : ∀ s ∈ l, s ≠ []) :
    Uri.rooted (mergedPath base path) = underRoot (withoutDots (l ++ [z])) := by
  have hslash : ∀ s ∈ l ++ [z], '/' ∉ s := fun s hs =>
    not_mem_of_mem_merge (hm ▸ List.mem_cons_of_mem _ hs)
  obtain ⟨kept, last, hw, hkept, hlast, _⟩ := exists_withoutDots_concat l z
  have hlastSlash : '/' ∉ last := by
    rcases hlast with rfl | rfl
    · exact hslash last List.mem_concat_self
    · exact List.not_mem_nil
  rcases withoutDots_nil_cons l z with h | h
  · have hj : ['/'].intercalate (withoutDots (merge base path)) = underRoot (kept ++ [last]) := by
      rw [hm, h, intercalate_cons, List.nil_append, hw]
    have hhead : (underRoot (kept ++ [last])).head? = some '/' := by
      cases kept <;> rfl
    rw [mergedPath_of_intercalate_ne_nil (by rw [hj]; intro hn; rw [hn] at hhead; cases hhead), hj,
      Uri.rooted_of_head? hhead, hw]
  · rw [← hm, hw] at h
    rw [hw]
    cases kept with
    | nil =>
      rw [List.nil_append] at h ⊢
      by_cases hn : last = []
      · rw [mergedPath_of_intercalate_eq_nil (by rw [h, List.intercalate_singleton, hn]), hn]
        rfl
      · rw [mergedPath_of_intercalate_ne_nil (by rwa [h, List.intercalate_singleton]), h,
          intercalate_cons, rooted_append hn hlastSlash]
        rfl
    | cons s kept =>
      have hs := (hkept s (List.mem_cons_self ..)).1
      have hj : ['/'].intercalate (withoutDots (merge base path)) =
          s ++ underRoot (kept ++ [last]) := by rw [h, List.cons_append, intercalate_cons]
      have hne : s ++ underRoot (kept ++ [last]) ≠ [] := fun hn =>
        hl s hs (List.append_eq_nil_iff.mp hn).1
      rw [mergedPath_of_intercalate_ne_nil (by rwa [hj]), hj,
        rooted_append (hl s hs) (hslash s (List.mem_append_left _ hs))]
      rfl

/-- Segments that are there are not dropped. -/
theorem filter_of_ne_nil {l : List Text} (h : ∀ s ∈ l, s ≠ []) : l.filter (· != []) = l := by
  rw [List.filter_eq_self]
  intro s hs
  simpa only [bne_iff_ne] using h s hs

/-- The segments of a rooted base path up to its last slash. -/
def below (base : Text) : List Text := (segments base).dropLast.tail

/-- The segments that a relative path runs through on its way from the root of the
base path to its last segment. -/
def trail (base path : Text) : List Text :=
  (below base ++ (segments path).dropLast).filter (· != [])

/-- The directory of a rooted base path: the root and the segments below it, perhaps
with an empty one behind them. -/
theorem directory_of_isRooted {base : Text} (h : IsRooted base) :
    ∃ gap : List Text, gap.filter (· != []) = [] ∧ directory base = [] :: (below base ++ gap) := by
  have hs := segments_of_isRooted h
  have hc := segments_eq_concat base
  have hlast : (segments base).getLast? = some (afterLast '/' base) := by
    rw [hc, List.getLast?_concat]
  simp only [directory, below, hlast, Option.some.injEq]
  cases hd : (segments base).dropLast with
  | nil =>
    rw [hd, List.nil_append, hs] at hc
    rw [hs, ← (List.cons.inj hc).1, (List.cons.inj hc).2]
    exact ⟨[], rfl, rfl⟩
  | cons s l =>
    rw [hd, hs] at hc
    obtain ⟨rfl, ht⟩ := List.cons.inj hc
    split
    · rename_i ha
      exact ⟨[[]], rfl, by rw [hs, ht, ha]; rfl⟩
    · exact ⟨[], rfl, by rw [List.append_nil]; rfl⟩

theorem ne_nil_of_mem_trail {base path s : Text} (h : s ∈ trail base path) : s ≠ [] := by
  simpa only [bne_iff_ne] using (List.mem_filter.mp h).2

theorem not_mem_of_mem_trail {base path s : Text} (h : s ∈ trail base path) : '/' ∉ s := by
  rcases List.mem_append.mp (List.mem_filter.mp h).1 with h | h
  · exact not_mem_of_mem_segments (List.dropLast_subset _ (List.mem_of_mem_tail h))
  · exact not_mem_of_mem_segments (List.dropLast_subset _ h)

/-- A relative path is merged to the root, its trail and its last segment. -/
theorem merge_of_relative {base path : Text} (hb : IsRooted base) (hp : path.head? ≠ some '/') :
    merge base path = [] :: (trail base path ++ [afterLast '/' path]) := by
  obtain ⟨gap, hgap, hd⟩ := directory_of_isRooted hb
  have hl : below base ++ gap ++ segments path =
      (below base ++ gap ++ (segments path).dropLast) ++ [afterLast '/' path] := by
    rw [List.append_assoc _ _ [_], ← segments_eq_concat]
  simp only [merge, hp, ite_false, hd, List.cons_append, dropInnerEmpty, hl, List.dropLast_concat,
    List.getLast?_concat, Option.toList_some, trail, List.filter_append, hgap, List.append_nil]

/-- The path that a relative path leads to from a rooted base path. -/
theorem rooted_mergedPath_of_relative {base path : Text} (hb : IsRooted base)
    (hp : path.head? ≠ some '/') :
    Uri.rooted (mergedPath base path) =
      underRoot (withoutDots (trail base path ++ [afterLast '/' path])) :=
  rooted_mergedPath (merge_of_relative hb hp) fun _ => ne_nil_of_mem_trail

/-- A merged path holds only characters of both paths and slashes. -/
theorem mem_mergedPath {base path : Text} {c : Char} (h : c ∈ mergedPath base path) :
    c = '/' ∨ c ∈ base ∨ c ∈ path := by
  have hj : c ∈ ['/'].intercalate (withoutDots (merge base path)) →
      c = '/' ∨ c ∈ base ∨ c ∈ path := by
    intro hc
    rcases mem_intercalate hc with hc | ⟨s, hs, hc⟩
    · exact Or.inl hc
    · simp only [withoutDots, List.mem_append, List.mem_reverse] at hs
      rcases hs with hs | hs
      · rcases mem_merge ((mem_foldl_visit hs).resolve_left List.not_mem_nil).1 with hm | hm
        · exact Or.inr (Or.inl (mem_of_mem_splitOn hm hc))
        · exact Or.inr (Or.inr (mem_of_mem_splitOn hm hc))
      · split at hs
        · rw [List.mem_singleton.mp hs] at hc
          cases hc
        · cases hs
  by_cases hn : ['/'].intercalate (withoutDots (merge base path)) = []
  · rw [mergedPath_of_intercalate_eq_nil hn, List.mem_singleton] at h
    exact Or.inl h
  · rw [mergedPath_of_intercalate_ne_nil hn] at h
    exact hj h

theorem mergedPath_ne_nil (base path : Text) : mergedPath base path ≠ [] := by
  by_cases hn : ['/'].intercalate (withoutDots (merge base path)) = []
  · rw [mergedPath_of_intercalate_eq_nil hn]
    exact List.cons_ne_nil _ _
  · rwa [mergedPath_of_intercalate_ne_nil hn]

/-! ## Paths behind one another -/

/-- Behind a directory path the segments of a second path go on. -/
theorem trail_append {first : Text} (hlast : first.getLast? = some '/') (base second : Text) :
    trail base (first ++ second) =
      trail base first ++ (segments second).dropLast.filter (· != []) := by
  have hthrough : throughLast '/' first = first := by
    have h := throughLast_append_afterLast '/' first
    rwa [afterLast_of_getLast? hlast, List.append_nil] at h
  have hs := segments_throughLast_append first second
  rw [hthrough] at hs
  have hd : (segments (first ++ second)).dropLast =
      (segments first).dropLast ++ (segments second).dropLast := by
    rw [hs, List.dropLast_append_of_ne_nil (segments_ne_nil second)]
  rw [trail, hd, trail, List.filter_append, List.filter_append, List.filter_append,
    List.append_assoc]

/-- A directory path leads to what the dots leave of its trail, with a slash at the end. -/
theorem rooted_mergedPath_of_getLast? {base path : Text} (hb : IsRooted base)
    (hlast : path.getLast? = some '/') (hp : path.head? ≠ some '/') :
    Uri.rooted (mergedPath base path) =
      underRoot (((trail base path).foldl visit []).reverse ++ [[]]) := by
  rw [rooted_mergedPath_of_relative hb hp, afterLast_of_getLast? hlast,
    withoutDots_concat (by decide)]

/-- Going down a directory path first and a second path then is going down both at once. -/
theorem rooted_mergedPath_append {base first second : Text} (hb : IsRooted base)
    (hlast : first.getLast? = some '/') (hfirst : first.head? ≠ some '/')
    (hsecond : second.head? ≠ some '/') :
    Uri.rooted (mergedPath (Uri.rooted (mergedPath base first)) second) =
      Uri.rooted (mergedPath base (first ++ second)) := by
  let kept := ((trail base first).foldl visit []).reverse
  have hkept : ∀ s ∈ kept, s ∈ trail base first := fun s hs =>
    ((mem_foldl_visit (List.mem_reverse.mp hs)).resolve_left List.not_mem_nil).1
  have hslash : ∀ s ∈ kept ++ [[]], '/' ∉ s := by
    intro s hs
    rcases List.mem_append.mp hs with hs | hs
    · exact not_mem_of_mem_trail (hkept s hs)
    · rw [List.mem_singleton.mp hs]
      exact List.not_mem_nil
  have hbelow : below (underRoot (kept ++ [[]])) = kept := by
    rw [below, segments_underRoot hslash, ← List.cons_append, List.dropLast_concat,
      List.tail_cons]
  -- What is kept of the first path goes into the second trail as it is.
  have htrail : trail (underRoot (kept ++ [[]])) second =
      kept ++ (segments second).dropLast.filter (· != []) := by
    rw [trail, hbelow, List.filter_append,
      filter_of_ne_nil fun s hs => ne_nil_of_mem_trail (hkept s hs)]
  obtain ⟨p, rfl⟩ := List.getLast?_eq_some_iff.mp hlast
  have hboth : (p ++ ['/'] ++ second).head? ≠ some '/' := by
    rw [List.head?_append_of_ne_nil _ (by simp)]
    exact hfirst
  have hend : afterLast '/' (p ++ ['/'] ++ second) = afterLast '/' second := by
    rw [List.append_assoc, List.singleton_append, afterLast_append_cons]
  rw [rooted_mergedPath_of_relative hb hboth, hend, trail_append hlast,
    rooted_mergedPath_of_relative (isRooted_rooted _) hsecond,
    rooted_mergedPath_of_getLast? hb hlast hfirst, htrail, withoutDots_reverse_foldl_append]

end UriMount.Reference

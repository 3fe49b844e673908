import UriMount.Reference
import UriMount.Proofs.Resolution

/-!
# Resolution by the standard

The standard removes dot segments from a text, prefix by prefix, while joining
carries them out on a list of segments. Both leave the same segments under the
root, so that resolving a local reference gives the target of the standard.
-/

namespace UriMount.Reference

open Text

/-! ## Removing dots from a path under the root -/

theorem before_slash_append_underRoot {s : Text} (h : '/' ∉ s) (l : List Text) :
    before '/' (s ++ underRoot l) = s := by
  rw [before_append h]
  cases l with
  | nil => exact List.append_nil s
  | cons t l => rw [underRoot_cons, before_cons_self, List.append_nil]

theorem dropWhile_append_underRoot {s : Text} (h : '/' ∉ s) (l : List Text) :
    (s ++ underRoot l).dropWhile (· != '/') = underRoot l := by
  rw [List.dropWhile_append_of_pos]
  · cases l <;> rfl
  · intro c hc
    simpa only [bne_iff_ne] using fun he : c = '/' => h (he ▸ hc)

/-- A segment that is no dot segment moves to the output. -/
theorem removeDots_segment {s : Text} (h : '/' ∉ s) (hs : ¬IsDots s) (output : Text)
    (l : List Text) :
    removeDots output (underRoot (s :: l)) = removeDots (output ++ '/' :: s) (underRoot l) := by
  -- a rule for dots would need a dot segment in front of the next slash
  have hne {t : Text} (ht : IsDots (before '/' t)) : s ++ underRoot l ≠ t := by
    rintro rfl
    rw [before_slash_append_underRoot h] at ht
    exact hs ht
  rw [underRoot_cons, removeDots, before_slash_append_underRoot h, dropWhile_append_underRoot h]
  · exact fun _ hc _ => absurd hc (by decide)
  · exact fun _ hc _ => absurd hc (by decide)
  · exact fun _ _ ht => hne (Or.inl rfl) ht
  · exact fun _ ht => hne (Or.inl rfl) ht
  · exact fun _ _ ht => hne (Or.inr rfl) ht
  · exact fun _ ht => hne (Or.inr rfl) ht
  · exact fun hc _ => absurd hc (by decide)
  · exact fun hc _ => absurd hc (by decide)

theorem dropLastSegment_underRoot {visited : List Text} (h : ∀ s ∈ visited, '/' ∉ s) :
    dropLastSegment (underRoot visited.reverse) = underRoot visited.tail.reverse := by
  cases visited with
  | nil => rfl
  | cons s visited =>
    have hs : throughLast '/' s = [] := by
      rcases throughLast_eq_nil_or '/' s with hn | ⟨t, ht⟩
      · exact hn
      · have hm : '/' ∈ throughLast '/' s := by rw [ht]; exact List.mem_concat_self
        exact absurd (mem_of_mem_throughLast hm) (h s (List.mem_cons_self ..))
    rw [dropLastSegment, List.reverse_cons, underRoot_append, underRoot_cons, underRoot_nil,
      List.append_nil, throughLast_append_cons, hs, List.dropLast_concat, List.tail_cons]

theorem removeDots_here_slash (output t : Text) :
    removeDots output ('/' :: '.' :: '/' :: t) = removeDots output ('/' :: t) := by
  rw [removeDots]

theorem removeDots_here (output : Text) :
    removeDots output ['/', '.'] = removeDots output ['/'] := by
  rw [removeDots]

theorem removeDots_up_slash (output t : Text) :
    removeDots output ('/' :: '.' :: '.' :: '/' :: t) =
      removeDots (dropLastSegment output) ('/' :: t) := by
  rw [removeDots]

theorem removeDots_up (output : Text) :
    removeDots output ['/', '.', '.'] = removeDots (dropLastSegment output) ['/'] := by
  rw [removeDots]

/-- A segment with another one behind it is carried out on the output. -/
theorem removeDots_visit {s : Text} (hs : '/' ∉ s) {visited : List Text}
    (hv : ∀ s ∈ visited, '/' ∉ s) {l : List Text} (hl : l ≠ []) :
    removeDots (underRoot visited.reverse) (underRoot (s :: l)) =
      removeDots (underRoot (visit visited s).reverse) (underRoot l) := by
  obtain ⟨t, l, rfl⟩ := List.exists_cons_of_ne_nil hl
  by_cases hd : IsDots s
  · rcases hd with rfl | rfl
    · rw [visit_here, underRoot_cons here, underRoot_cons t]
      exact removeDots_here_slash ..
    · rw [visit_up, ← dropLastSegment_underRoot hv, underRoot_cons up, underRoot_cons t]
      exact removeDots_up_slash ..
  · rw [removeDots_segment hs hd, visit_of_not_isDots hd, List.reverse_cons, underRoot_append,
      underRoot_cons s [], underRoot_nil, List.append_nil]

/-- A slash at the end moves to the output. -/
theorem removeDots_slash (output : Text) : removeDots output ['/'] = output ++ ['/'] := by
  have h := removeDots_segment List.not_mem_nil (by decide : ¬IsDots []) output []
  rw [underRoot_nil, removeDots] at h
  exact h

/-- The last segment is carried out, and a dot segment leaves a slash. -/
theorem removeDots_last {z : Text} (hz : '/' ∉ z) {visited : List Text}
    (hv : ∀ s ∈ visited, '/' ∉ s) :
    removeDots (underRoot visited.reverse) (underRoot [z]) =
      underRoot ((visit visited z).reverse ++ if IsDots z then [[]] else []) := by
  have hroot : underRoot [[]] = ['/'] := rfl
  by_cases hd : IsDots z
  · rw [if_pos hd, underRoot_append, hroot, ← removeDots_slash]
    rcases hd with rfl | rfl
    · exact removeDots_here _
    · rw [visit_up, ← dropLastSegment_underRoot hv]
      exact removeDots_up _
  · rw [if_neg hd, removeDots_segment hz hd, visit_of_not_isDots hd, underRoot_nil, removeDots,
      List.append_nil, List.reverse_cons, underRoot_append, underRoot_cons, underRoot_nil,
      List.append_nil]

/-- Removing dots from a text carries out its segments on the output. -/
theorem removeDots_append {l : List Text} (hl : ∀ s ∈ l, '/' ∉ s) {z : Text} (hz : '/' ∉ z)
    {visited : List Text} (hv : ∀ s ∈ visited, '/' ∉ s) :
    removeDots (underRoot visited.reverse) (underRoot (l ++ [z])) =
      underRoot ((visit (l.foldl visit visited) z).reverse ++ if IsDots z then [[]] else []) := by
  induction l generalizing visited with
  | nil => exact removeDots_last hz hv
  | cons s l ih =>
    have hvisit : ∀ t ∈ visit visited s, '/' ∉ t := by
      intro t ht
      rcases mem_foldl_visit (l := [s]) ht with ht | ⟨ht, _⟩
      · exact hv t ht
      · rw [List.mem_singleton.mp ht]
        exact hl s (List.mem_cons_self ..)
    rw [List.cons_append, removeDots_visit (hl s (List.mem_cons_self ..)) hv (by simp),
      ih (fun t ht => hl t (List.mem_cons_of_mem _ ht)) hvisit, List.foldl_cons]

/-- Removing the dots from a path under the root leaves the segments that carrying
them out leaves. -/
theorem removeDotSegments_underRoot {l : List Text} (hl : ∀ s ∈ l, '/' ∉ s) {z : Text}
    (hz : '/' ∉ z) :
    removeDotSegments (underRoot (l ++ [z])) = underRoot (withoutDots (l ++ [z])) := by
  have h := removeDots_append hl hz (List.forall_mem_nil ('/' ∉ ·))
  simp only [withoutDots, List.foldl_append, List.foldl_cons, List.foldl_nil,
    List.getLast?_concat, Option.some.injEq]
  exact h

/-! ## Paths without two slashes in a row -/

/-- An empty first segment with another one behind it stands in front of a slash. -/
theorem head?_of_segments_eq {path s : Text} {l : List Text}
    (h : segments path = [] :: s :: l) : path.head? = some '/' := by
  cases path with
  | nil => cases h
  | cons c t =>
    by_cases hc : c = '/'
    · rw [hc, List.head?_cons]
    · obtain ⟨p, ps, hp⟩ := List.exists_cons_of_ne_nil (segments_ne_nil t)
      rw [segments_cons_of_ne hc, hp] at h
      cases h

/-- Without two slashes in a row only the first and the last segment may be empty. -/
theorem ne_nil_of_mem_inner {path : Text} (h : ¬['/', '/'] <:+: path) :
    ∀ s ∈ (segments path).tail.dropLast, s ≠ [] := by
  induction path with
  | nil => exact fun s hs => absurd hs List.not_mem_nil
  | cons c t ih =>
    have ht := ih fun hi => h (hi.trans (List.suffix_cons c t).isInfix)
    obtain ⟨p, ps, hp⟩ := List.exists_cons_of_ne_nil (segments_ne_nil t)
    rw [hp] at ht
    by_cases hc : c = '/'
    · rw [hc, segments_cons_slash, hp]
      cases ps with
      | nil => simp
      | cons q qs =>
        intro s hs
        rcases List.mem_cons.mp hs with rfl | hs
        · rintro rfl
          obtain ⟨u, rfl⟩ := List.head?_eq_some_iff.mp (head?_of_segments_eq hp)
          exact h (hc ▸ (List.prefix_append ['/', '/'] u).isInfix)
        · exact ht s hs
    · rw [segments_cons_of_ne hc, hp]
      exact ht

/-- A relative path without two slashes in a row has no empty segment before the last. -/
theorem ne_nil_of_mem_dropLast {path : Text} (h : ¬['/', '/'] <:+: path)
    (hp : path.head? ≠ some '/') : ∀ s ∈ (segments path).dropLast, s ≠ [] := by
  intro s hs
  have hinner := ne_nil_of_mem_inner h
  cases hseg : segments path with
  | nil => exact absurd hseg (segments_ne_nil path)
  | cons p ps =>
    rw [hseg] at hs hinner
    cases ps with
    | nil => cases hs
    | cons q qs =>
      rcases List.mem_cons.mp hs with rfl | hs
      · rintro rfl
        exact hp (head?_of_segments_eq hseg)
      · exact hinner s hs

/-! ## The standard target -/

/-- The standard merge puts a relative path under the root behind the base path. -/
theorem mergeText_eq {base : Uri} (ha : base.authority ≠ []) (hroot : IsRooted base.path)
    (path : Text) : mergeText base path = underRoot (below base.path ++ segments path) := by
  have hmerge : segments (mergeText base path) = [] :: (below base.path ++ segments path) := by
    unfold mergeText
    cases hb : base.path with
    | nil =>
      rw [if_pos ⟨ha, rfl⟩, segments_cons_slash]
      rfl
    | cons c t =>
      have hc : c = '/' := by simpa [IsRooted, hb] using hroot
      have hn : ¬(base.authority ≠ [] ∧ c :: t = []) := fun h => List.cons_ne_nil c t h.2
      rw [if_neg hn, hc, segments_throughLast_append, below, segments_cons_slash,
        List.dropLast_cons_of_ne_nil (segments_ne_nil t), List.cons_append, List.tail_cons]
  calc mergeText base path
      = ['/'].intercalate (segments (mergeText base path)) := (intercalate_segments _).symm
    _ = underRoot (below base.path ++ segments path) := by
      rw [hmerge, intercalate_cons, List.nil_append]

/-- A rooted path is merged as the standard removes its dots. -/
theorem rooted_mergedPath_of_slash {base path : Text} (hp : path.head? = some '/')
    (h : ¬['/', '/'] <:+: path) :
    Uri.rooted (mergedPath base path) = removeDotSegments path := by
  have hroot : IsRooted path := Or.inr hp
  have htail : (segments path).tail = (segments path).tail.dropLast ++ [afterLast '/' path] := by
    obtain ⟨t, rfl⟩ := List.head?_eq_some_iff.mp hp
    rw [segments_cons_slash, List.tail_cons]
    have ht := segments_eq_concat t
    rwa [← afterLast_append_cons '/' [] t] at ht
  have hslash : ∀ s ∈ (segments path).tail, '/' ∉ s := fun s hs =>
    not_mem_of_mem_segments (List.mem_of_mem_tail hs)
  have hm : merge base path = [] :: ((segments path).tail.dropLast ++ [afterLast '/' path]) := by
    rw [merge, if_pos hp, ← htail]
    exact segments_of_isRooted hroot
  have hd := removeDotSegments_underRoot
    (fun s hs => hslash s (List.dropLast_subset _ hs)) (not_mem_afterLast '/' path)
  rw [rooted_mergedPath hm (ne_nil_of_mem_inner h), ← hd, ← htail, underRoot_tail_segments hroot]

/-- A relative path is merged as the standard merges it and removes its dots. -/
theorem rooted_mergedPath_of_relative_eq {base : Uri} (ha : base.authority ≠ [])
    (hroot : IsRooted base.path) (hb : ¬['/', '/'] <:+: base.path) {path : Text}
    (hp : path.head? ≠ some '/') (h : ¬['/', '/'] <:+: path) :
    Uri.rooted (mergedPath base.path path) = removeDotSegments (mergeText base path) := by
  have hbelow : ∀ s ∈ below base.path, s ∈ segments base.path ∧ s ≠ [] := by
    intro s hs
    have hd : s ∈ (segments base.path).tail.dropLast := by rwa [below, List.tail_dropLast] at hs
    exact ⟨List.mem_of_mem_tail (List.dropLast_subset _ hd), ne_nil_of_mem_inner hb s hd⟩
  have hne : ∀ s ∈ below base.path ++ (segments path).dropLast, s ≠ [] := by
    intro s hs
    rcases List.mem_append.mp hs with hs | hs
    · exact (hbelow s hs).2
    · exact ne_nil_of_mem_dropLast h hp s hs
  have hslash : ∀ s ∈ below base.path ++ (segments path).dropLast, '/' ∉ s := by
    intro s hs
    rcases List.mem_append.mp hs with hs | hs
    · exact not_mem_of_mem_segments (hbelow s hs).1
    · exact not_mem_of_mem_segments (List.dropLast_subset _ hs)
  have htrail : trail base.path path = below base.path ++ (segments path).dropLast := by
    rw [trail, filter_of_ne_nil hne]
  rw [rooted_mergedPath_of_relative hroot hp, htrail, mergeText_eq ha hroot,
    ← removeDotSegments_underRoot hslash (not_mem_afterLast '/' path), List.append_assoc,
    ← segments_eq_concat]

end UriMount.Reference

namespace UriMount

open Text Reference

/-- Against a hosted base without parameters and without two slashes in a row, the
target of a local reference is the one of the standard. -/
theorem localTarget_eq_standardTarget {base r : Uri} (hbase : base.Hosted)
    (hb : ¬['/', '/'] <:+: base.path) (hbp : ';' ∉ afterLast '/' base.path)
    (hs : r.scheme = []) (ha : r.authority = []) (h : ¬['/', '/'] <:+: r.path)
    (hp : ';' ∉ afterLast '/' r.path) : base.localTarget r = standardTarget base r := by
  have hparts := Uri.localParts_of_not_mem base hp
  have hstandard : standardTarget base r =
      { base with
        path := (standardPath base r).1
        query := (standardPath base r).2
        fragment := r.fragment } := by
    simp only [standardTarget, hs, ha, ne_eq, not_true_eq_false, ite_false]
  rw [hstandard]
  unfold standardPath
  split
  · rename_i hn
    exact Uri.localTarget_of_pathless hbp ha hbase.path_isRooted (by rw [hparts]; exact ⟨hn, rfl⟩)
  · rename_i hn
    rw [Uri.localTarget_of_not_mem hbp ha hn hp]
    split
    · rename_i hslash
      rw [rooted_mergedPath_of_slash hslash h]
    · rename_i hslash
      rw [rooted_mergedPath_of_relative_eq hbase.authority_ne_nil hbase.path_isRooted hb hslash h]

/-- Resolving a local reference against a written base with an authority gives the
target of the standard, for every scheme. Two slashes in a row and parameters of the
last segment are left out, on which the standard and joining differ. -/
theorem resolve_eq_standardTarget {written reference : Text} {base r : Uri}
    (hread : readUri uriArgument (some (.text written)) = .ok base) (ha : base.authority ≠ [])
    (hf : base.fragment = []) (hb : ¬['/', '/'] <:+: base.path)
    (hbp : ';' ∉ afterLast '/' base.path) (hr : IsLocal reference r)
    (h : ¬['/', '/'] <:+: r.path) (hp : ';' ∉ afterLast '/' r.path) :
    base.resolve reference = .ok (standardTarget base r) := by
  have hwritten : (Source.text written).IsWritten := trivial
  have hu := readUri_eq_ok_iff.mp hread
  have hbase := hwritten.hosted hu ha
  have hreread := (hwritten.clean hu).reread_eq
  by_cases hn : reference = []
  · subst hn
    have hempty : r = ⟨[], [], [], [], []⟩ := (Uri.split_eq_ok_iff.mp hr.split).1.symm
    rw [hbase.resolve_nil, hreread, hempty]
    simp only [standardTarget, standardPath, ne_eq, not_true_eq_false, ite_false, ite_true, ← hf]
  · rw [hbase.resolve_of_isLocal hr hn, hreread,
      localTarget_eq_standardTarget hbase hb hbp hr.scheme hr.authority h hp]

/-- A base of a scheme without relative references and a reference that leaves the root. -/
theorem resolve_eq_standardTarget_past_root :
    ∃ base r, readUri uriArgument (some (.text " App://h:1/a;b/../c?q ".toList)) = .ok base ∧
      IsLocal "./../../../d/..#f".toList r ∧
      base.resolve "./../../../d/..#f".toList = .ok (standardTarget base r) ∧
      standardTarget base r = ⟨"app".toList, "h:1".toList, "/".toList, [], "f".toList⟩ := by
  let base : Uri := ⟨"app".toList, "h:1".toList, "/a;b/../c".toList, "q".toList, []⟩
  have hread : readUri uriArgument (some (.text " App://h:1/a;b/../c?q ".toList)) = .ok base := by
    rfl
  have hr : IsLocal "./../../../d/..#f".toList
      ⟨[], [], "./../../../d/..".toList, [], "f".toList⟩ := ⟨by rfl, rfl, rfl⟩
  exact ⟨base, _, hread, hr, resolve_eq_standardTarget hread (by decide) rfl (by decide)
    (by decide) hr (by decide) (by decide), by decide +kernel⟩

end UriMount

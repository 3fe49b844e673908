import UriMount.Proofs.Destinations

/-!
# Merged paths in normal form

Carrying out the dots may take the empty segment in front of the first slash away, leave an
empty one at the end, and meet empty ones in between. Writing puts the first slash back, and
parameters go to the last segment. What results is always rooted and without dot segments, and
two slashes in a row come from a rooted reference only.
-/

namespace UriMount

open Text

namespace Reference

/-! ## Segments under the root -/

/-- Text behind a path under the root goes to its last segment. -/
theorem underRoot_concat_append (l : List Text) (z t : Text) :
    underRoot (l ++ [z]) ++ t = underRoot (l ++ [z ++ t]) := by
  simp only [underRoot_append, underRoot_cons, underRoot_nil, List.append_nil, List.append_assoc,
    List.cons_append]

theorem head?_underRoot_concat (l : List Text) (z : Text) :
    (underRoot (l ++ [z])).head? = some '/' := by
  cases l <;> rfl

/-- The last segment of a path under the root stands behind its last slash. -/
theorem afterLast_underRoot_concat (l : List Text) {z : Text} (hz : '/' ∉ z) :
    afterLast '/' (underRoot (l ++ [z])) = z := by
  rw [underRoot_append, underRoot_cons, underRoot_nil, List.append_nil, afterLast_append_cons,
    afterLast_of_not_mem hz]

/-- Two slashes in a row enclose an empty segment, which is not the last one. -/
theorem not_isInfix_underRoot {l : List Text} {z : Text} (hslash : ∀ s ∈ l ++ [z], '/' ∉ s)
    (hne : ∀ s ∈ l, s ≠ []) : ¬['/', '/'] <:+: underRoot (l ++ [z]) := by
  rintro ⟨first, rest, hpath⟩
  have hcut : segments (underRoot (l ++ [z])) = segments first ++ [] :: segments rest := by
    rw [← hpath, List.append_assoc, List.cons_append, segments_append_slash]
    exact congrArg (segments first ++ ·) (segments_cons_slash rest)
  obtain ⟨s, ss, hs⟩ := List.exists_cons_of_ne_nil (segments_ne_nil first)
  rw [segments_underRoot hslash, hs, segments_eq_concat rest] at hcut
  have htail : l ++ [z] = (ss ++ [] :: (segments rest).dropLast) ++ [afterLast '/' rest] := by
    rw [List.append_assoc, List.cons_append]
    exact (List.cons.inj hcut).2
  have hl : l = ss ++ [] :: (segments rest).dropLast := (List.append_inj' htail rfl).1
  exact hne [] (hl ▸ List.mem_append_right ss (List.mem_cons_self ..)) rfl

/-! ## Merged paths -/

/-- What the dots leave of segments are segments, none of which is a dot segment. -/
theorem exists_withoutDots_segments {l : List Text} {z : Text} (h : ∀ s ∈ l ++ [z], '/' ∉ s) :
    ∃ kept last, withoutDots (l ++ [z]) = kept ++ [last] ∧
      (∀ s ∈ kept ++ [last], '/' ∉ s ∧ ¬IsDots s) ∧ (∀ s ∈ kept, s ∈ l) ∧
      (last = z ∨ last = []) := by
  obtain ⟨kept, last, hw, hkept, hlast, hdots⟩ := exists_withoutDots_concat l z
  refine ⟨kept, last, hw, ?_, fun s hs => (hkept s hs).1, hlast⟩
  intro s hs
  rcases List.mem_append.mp hs with hs | hs
  · exact ⟨h s (List.mem_append_left _ (hkept s hs).1), (hkept s hs).2⟩
  · rw [List.mem_singleton.mp hs]
    refine ⟨?_, hdots⟩
    rcases hlast with rfl | rfl
    · exact h last List.mem_concat_self
    · exact List.not_mem_nil

/-- A merged path is the root with the segments that the dots leave, save that an empty
first one is the root itself. -/
theorem exists_rooted_mergedPath_of_withoutDots {base path : Text} {kept : List Text}
    {last : Text} (hw : withoutDots (merge base path) = kept ++ [last])
    (hslash : ∀ s ∈ kept ++ [last], '/' ∉ s) :
    ∃ l, (∀ s ∈ l, s ∈ kept) ∧ Uri.rooted (mergedPath base path) = underRoot (l ++ [last]) := by
  by_cases hn : ['/'].intercalate (kept ++ [last]) = []
  · have hlast : kept = [] ∧ last = [] := by
      cases kept with
      | nil => exact ⟨rfl, by simpa only [List.nil_append, List.intercalate_singleton] using hn⟩
      | cons s kept =>
        rw [List.cons_append, intercalate_cons, List.append_eq_nil_iff] at hn
        have hhead := head?_underRoot_concat kept last
        rw [hn.2] at hhead
        cases hhead
    refine ⟨[], fun s hs => absurd hs List.not_mem_nil, ?_⟩
    rw [mergedPath_of_intercalate_eq_nil (hw ▸ hn), hlast.2]
    rfl
  · rw [mergedPath_of_intercalate_ne_nil (hw ▸ hn), hw]
    cases kept with
    | nil =>
      refine ⟨[], fun _ hs => hs, ?_⟩
      rw [List.nil_append, List.intercalate_singleton] at hn ⊢
      conv => lhs; rw [← List.append_nil last]
      exact rooted_append hn (hslash last (List.mem_cons_self ..)) []
    | cons s kept =>
      rw [List.cons_append, intercalate_cons]
      by_cases hs : s = []
      · refine ⟨kept, fun _ => List.mem_cons_of_mem s, ?_⟩
        rw [hs, List.nil_append, Uri.rooted_of_head? (head?_underRoot_concat kept last)]
      · refine ⟨s :: kept, fun _ ht => ht, ?_⟩
        rw [rooted_append hs (hslash s (List.mem_cons_self ..))]
        rfl

/-- A merged path is the root with segments of which none is a dot segment. The last one is
the last one of the reference, or empty, and empty ones stand before it only if the reference
is rooted. -/
theorem exists_rooted_mergedPath {base : Text} (hb : IsRooted base) (path : Text) :
    ∃ l last, Uri.rooted (mergedPath base path) = underRoot (l ++ [last]) ∧
      (∀ s ∈ l ++ [last], '/' ∉ s ∧ ¬IsDots s) ∧ (last = afterLast '/' path ∨ last = []) ∧
      (path.head? ≠ some '/' → ∀ s ∈ l, s ≠ []) := by
  by_cases hp : path.head? = some '/'
  · have hm : merge base path = (segments path).dropLast ++ [afterLast '/' path] := by
      rw [merge, if_pos hp]
      exact segments_eq_concat path
    have hslash : ∀ s ∈ (segments path).dropLast ++ [afterLast '/' path], '/' ∉ s := by
      rw [← segments_eq_concat]
      exact fun s hs => not_mem_of_mem_segments hs
    obtain ⟨kept, last, hw, hkept, -, hlast⟩ := exists_withoutDots_segments hslash
    obtain ⟨l, hl, hrooted⟩ := exists_rooted_mergedPath_of_withoutDots (hm ▸ hw)
      fun s hs => (hkept s hs).1
    refine ⟨l, last, hrooted, fun s hs => hkept s ?_, hlast, fun hn => absurd hp hn⟩
    exact (List.mem_append.mp hs).elim (fun hs => List.mem_append_left _ (hl s hs))
      (List.mem_append_right kept)
  · have hslash : ∀ s ∈ trail base path ++ [afterLast '/' path], '/' ∉ s := by
      intro s hs
      rcases List.mem_append.mp hs with hs | hs
      · exact not_mem_of_mem_trail hs
      · rw [List.mem_singleton.mp hs]
        exact not_mem_afterLast '/' path
    obtain ⟨kept, last, hw, hkept, htrail, hlast⟩ := exists_withoutDots_segments hslash
    exact ⟨kept, last, by rw [rooted_mergedPath_of_relative hb hp, hw], hkept, hlast,
      fun _ s hs => ne_nil_of_mem_trail (htrail s hs)⟩

/-- A path in normal form: it starts with a slash, and no segment is a dot segment. -/
structure IsNormal (path : Text) : Prop where
  /-- The path starts with a slash. -/
  head?_eq : path.head? = some '/'
  /-- No segment stays in place or goes up. -/
  not_isDots : ∀ s ∈ segments path, ¬IsDots s

/-- A dot segment announces no parameters. -/
theorem IsDots.not_mem {s : Text} (h : IsDots s) : ';' ∉ s := by
  rcases h with rfl | rfl <;> decide

/-- A path under the root is in normal form when its segments are no dot segments. -/
theorem isNormal_underRoot {l : List Text} {z : Text} (h : ∀ s ∈ l ++ [z], '/' ∉ s ∧ ¬IsDots s) :
    IsNormal (underRoot (l ++ [z])) := by
  refine ⟨head?_underRoot_concat l z, fun s hs => ?_⟩
  rw [segments_underRoot fun s hs => (h s hs).1] at hs
  rcases List.mem_cons.mp hs with rfl | hs
  · decide
  · exact (h s hs).2

/-- Parameters make no dot segment of the segment that they are put behind. -/
theorem not_isDots_append_marked {last : Text} (h : ¬IsDots last) (params : Text) :
    ¬IsDots (last ++ marked ';' params) := by
  unfold marked
  split
  · rwa [List.append_nil]
  · exact fun hd => hd.not_mem (List.mem_append_right last (List.mem_cons_self ..))

end Reference

/-! ## Targets with a path -/

/-- Parameters hold no slash. -/
theorem ParamUri.not_mem_ofUri_params (u : Uri) : '/' ∉ (ofUri u).params := by
  unfold ofUri
  split
  · exact fun h => not_mem_afterLast '/' u.path (mem_of_mem_after h)
  · exact List.not_mem_nil

namespace Uri

open Reference

/-- The target of a reference with a path lies under the root, behind segments that are no
dot segments and that are not empty unless the reference is rooted. -/
theorem IsBase.exists_localTarget_path {base r : Uri} (h : base.IsBase) (ha : r.authority = [])
    (hne : r.path ≠ []) (hmark : r.path ≠ [';']) :
    ∃ l z, (base.localTarget r).path = underRoot (l ++ [z]) ∧
      (∀ s ∈ l ++ [z], '/' ∉ s ∧ ¬IsDots s) ∧
      (r.path.head? ≠ some '/' → ∀ s ∈ l, s ≠ []) := by
  let parts := base.localParts r
  have hp : ¬(parts.path = [] ∧ parts.params = []) := fun hn =>
    (ParamUri.path_of_pathless hn.1 hn.2).elim hne hmark
  obtain ⟨l, last, hrooted, hsegments, -, hinner⟩ :=
    exists_rooted_mergedPath h.path_isRooted parts.path
  refine ⟨l, last ++ marked ';' parts.params, ?_, ?_, fun hn => hinner ?_⟩
  · rw [localTarget_of_path h.not_mem ha hp, ← underRoot_concat_append, ← hrooted]
  · intro s hs
    rcases List.mem_append.mp hs with hs | hs
    · exact hsegments s (List.mem_append_left _ hs)
    · obtain ⟨hslash, hdots⟩ := hsegments last List.mem_concat_self
      rw [List.mem_singleton.mp hs]
      refine ⟨fun hm => ?_, not_isDots_append_marked hdots _⟩
      rcases List.mem_append.mp hm with hm | hm
      · exact hslash hm
      · rcases mem_marked hm with hm | hm
        · cases hm
        · exact ParamUri.not_mem_ofUri_params _ hm
  · obtain ⟨rest, hrest⟩ := localParts_path_isPrefix base r
    intro hs
    rw [← hrest, List.head?_append, hs] at hn
    exact hn rfl

end Uri

/-- A local reference that has a path leads to a path in normal form, whatever the path of
the mount is. Two slashes in a row are found in it only if the reference is rooted. -/
theorem exists_resolve_isNormal {source : Source} (hsource : source.IsWritten) {m : Mount}
    (hm : Mount.ofSource (some source) = .ok m) {reference : Text} {r : Uri}
    (hr : IsLocal reference r) (hne : r.path ≠ []) (hmark : r.path ≠ [';']) :
    ∃ u, m.resolve reference = .ok u ∧ Reference.IsNormal u.path ∧
      (r.path.head? ≠ some '/' → ¬['/', '/'] <:+: u.path) := by
  have hbase := Mount.isBase hsource hm
  obtain ⟨l, z, hpath, hsegments, hinner⟩ := hbase.exists_localTarget_path hr.authority hne hmark
  refine ⟨m.base.localTarget r, ?_, ?_, fun hn => ?_⟩
  · rw [Mount.resolve_eq_map hbase, hr.split, Except.map,
      Uri.destination_of_local (Or.inl hr.scheme) hr.authority]
  · exact hpath ▸ Reference.isNormal_underRoot hsegments
  · rw [hpath]
    exact Reference.not_isInfix_underRoot (fun s hs => (hsegments s hs).1) (hinner hn)

/-- Dots, empty segments and parameters in the mount and in the reference, which leaves the
root on its way. -/
theorem exists_resolve_isNormal_past_root :
    ∃ m r, Mount.ofSource (some (.text " App://u@H:1/a/.//b;p/..?q".toList)) = .ok m ∧
      IsLocal "..//.././../../c;d//..;e".toList r ∧ r.path ≠ [] ∧ r.path ≠ [';'] ∧
      r.path.head? ≠ some '/' ∧
      ∃ u, m.resolve "..//.././../../c;d//..;e".toList = .ok u ∧ Reference.IsNormal u.path ∧
        ¬['/', '/'] <:+: u.path := by
  let m : Mount :=
    ⟨"app".toList, "u@H:1".toList, "/a/.//b;p/../".toList, by decide, by rfl, by rfl, by rfl⟩
  have hm : Mount.ofSource (some (.text " App://u@H:1/a/.//b;p/..?q".toList)) = .ok m := by rfl
  have hr : IsLocal "..//.././../../c;d//..;e".toList
      ⟨[], [], "..//.././../../c;d//..;e".toList, [], []⟩ := ⟨by rfl, rfl, rfl⟩
  obtain ⟨u, hu, hnormal, hslashes⟩ :=
    exists_resolve_isNormal (Source.isWritten_text _) hm hr (by decide) (by decide)
  exact ⟨m, _, hm, hr, by decide, by decide, by decide, u, hu, hnormal, hslashes (by decide)⟩

end UriMount

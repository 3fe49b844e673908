import UriMount.Source
import UriMount.Proofs.Reading

/-!
# Appending, writing and reading again

Segments may hold any characters. Those that reading would take for a mark or
pass over are lost when an extended URI is written and read again, and they are
the only ones: without them all five components are read back.
-/

namespace UriMount

open Text

/-- The segments that contribute are the trimmed ones that are not empty. -/
theorem mem_cleanSegments {segments : List (Option Text)} {p : Text} :
    p ∈ cleanSegments segments ↔ (∃ t, some t ∈ segments ∧ trim isSlash t = p) ∧ p ≠ [] := by
  simp only [cleanSegments, List.mem_filter, List.mem_filterMap, Option.map_eq_some_iff,
    bne_iff_ne, and_congr_left_iff]
  intro _
  constructor
  · rintro ⟨o, ho, t, rfl, ht⟩
    exact ⟨t, ho, ht⟩
  · rintro ⟨t, ht, hp⟩
    exact ⟨some t, ht, t, rfl, hp⟩

/-- A rooted path stays rooted when its end is trimmed and more is put behind a slash. -/
theorem IsRooted.append_slash {path : Text} (h : IsRooted path) (t : Text) :
    IsRooted (trimEnd isSlash path ++ '/' :: t) := by
  have hkept : IsRooted (trimEnd isSlash path) :=
    h.of_isPrefix (List.rdropWhile_prefix isSlash path)
  refine Or.inr ?_
  rw [List.head?_append]
  rcases hkept with hp | hp
  · rw [hp]
    rfl
  · rw [hp]
    rfl

namespace Uri

/-- An extended path holds the characters of the path and of the segments, slashes apart. -/
theorem mem_path_append_iff {u : Uri} {segments : List (Option Text)} {c : Char} (hc : c ≠ '/') :
    c ∈ (u.append segments).path ↔ c ∈ u.path ∨ ∃ t, some t ∈ segments ∧ c ∈ t := by
  have hs : isSlash c = false := by simpa only [isSlash, beq_eq_false_iff_ne] using hc
  have hclean : (∃ p ∈ cleanSegments segments, c ∈ p) ↔ ∃ t, some t ∈ segments ∧ c ∈ t := by
    constructor
    · rintro ⟨p, hp, hm⟩
      obtain ⟨⟨t, ht, rfl⟩, _⟩ := mem_cleanSegments.mp hp
      exact ⟨t, ht, (mem_trim_iff hs).mp hm⟩
    · rintro ⟨t, ht, hm⟩
      have hm := (mem_trim_iff hs).mpr hm
      exact ⟨_, mem_cleanSegments.mpr ⟨⟨t, ht, rfl⟩, List.ne_nil_of_mem hm⟩, hm⟩
  rw [← hclean, append]
  split
  · rename_i h
    simp only [h, List.not_mem_nil, false_and, exists_false, or_false]
  · rw [List.mem_append, List.mem_cons, mem_trimEnd_iff hs]
    refine or_congr_right ⟨?_, ?_⟩
    · rintro (h | h)
      · exact absurd h hc
      · exact (mem_intercalate h).resolve_left hc
    · rintro ⟨p, hp, hm⟩
      exact Or.inr (mem_intercalate_of_mem hp hm)

/-- Appending segments leaves a URI hosted. -/
theorem Hosted.append {u : Uri} (h : u.Hosted) (segments : List (Option Text)) :
    (u.append segments).Hosted := by
  unfold Uri.append
  split
  · exact h
  · exact { h with path_isRooted := h.path_isRooted.append_slash _ }

/-- Appending to a clean URI leaves it clean exactly when no segment holds a mark or
a character that is passed over. -/
theorem clean_append_iff {u : Uri} (h : u.Clean) {segments : List (Option Text)} :
    (u.append segments).Clean ↔
      ∀ t, some t ∈ segments → ∀ c ∈ ['?', '#', '\t', '\r', '\n'], c ∉ t := by
  have hkept : ∀ c : Char, c ∈ ['?', '#', '\t', '\r', '\n'] ↔
      ¬(c ≠ '?' ∧ c ≠ '#' ∧ isSkipped c = false) := by
    intro c
    simp only [isSkipped, List.mem_cons, List.not_mem_nil, or_false, Bool.or_eq_false_iff,
      beq_eq_false_iff_ne]
    grind
  constructor
  · intro ha t ht c hc hm
    have hslash : c ≠ '/' := by
      rintro rfl
      exact absurd hc (by decide)
    exact (hkept c).mp hc (ha.of_mem_path c ((mem_path_append_iff hslash).mpr
      (Or.inr ⟨t, ht, hm⟩)))
  · intro hs
    rw [append_eq]
    refine { h with of_mem_path := fun c hc => ?_ }
    by_contra hn
    have hslash : c ≠ '/' := by
      rintro rfl
      exact hn (by decide)
    rcases (mem_path_append_iff hslash).mp hc with hm | ⟨t, ht, hm⟩
    · exact hn (h.of_mem_path c hm)
    · exact hs t ht c ((hkept c).mpr hn) hm

end Uri

/-- Writing an extended URI and reading it again gives the URI that was written
exactly when no segment holds a mark or a character that is passed over. -/
theorem split_appendToText_iff {base : Source} (hbase : base.IsWritten) {u : Uri}
    (hu : readUri baseArgument (some base) = .ok u) (ha : u.authority ≠ [])
    (segments : List (Option Text)) :
    (do Error.ofSplit (Uri.split (← appendToText (some base) segments))) =
        appendTo (some base) segments ↔
      ∀ t, some t ∈ segments → ∀ c ∈ ['?', '#', '\t', '\r', '\n'], c ∉ t := by
  have hread := readUri_eq_ok_iff.mp hu
  have happend : appendTo (some base) segments = .ok (u.append segments) := by
    rw [appendTo, hu]
    rfl
  have htext : appendToText (some base) segments = .ok (u.append segments).render := by
    rw [appendToText, happend]
    rfl
  have hhosted := (hbase.hosted hread ha).append segments
  rw [htext, happend, ← Uri.clean_append_iff (hbase.clean hread), ← Uri.reread_eq_self_iff]
  change Error.ofSplit (Uri.split (u.append segments).render) = _ ↔ _
  rw [hhosted.split_render, Error.ofSplit, Except.ok.injEq]

/-- Of two lists of segments put behind a path with parameters, the one without a mark
is read back and the other one is not. -/
theorem split_appendToText_iff_of_params :
    ∃ base u, Source.IsWritten base ∧ readUri baseArgument (some base) = .ok u ∧
      u.authority ≠ [] ∧
      (do Error.ofSplit (Uri.split (← appendToText (some base) [none, some "/b;c//".toList]))) =
        appendTo (some base) [none, some "/b;c//".toList] ∧
      (do Error.ofSplit (Uri.split (← appendToText (some base) [some "b?c".toList]))) ≠
        appendTo (some base) [some "b?c".toList] := by
  let base : Source :=
    .params { scheme := "ws".toList, authority := "h:1".toList, path := "/a//".toList,
              params := "p".toList, query := "q".toList, fragment := "f".toList }
  have hu : readUri baseArgument (some base) =
      .ok ⟨"ws".toList, "h:1".toList, "/a//;p".toList, "q".toList, "f".toList⟩ := by rfl
  have hbase : base.IsWritten := trivial
  have ha : "h:1".toList ≠ [] := by decide
  refine ⟨base, _, hbase, hu, ha, ?_, ?_⟩
  · refine (split_appendToText_iff hbase hu ha _).mpr fun t ht => ?_
    obtain rfl : t = "/b;c//".toList := by
      simpa only [List.mem_cons, reduceCtorEq, Option.some.injEq, List.not_mem_nil, or_false,
        false_or] using ht
    simp only [List.forall_mem_cons, List.not_mem_nil, false_implies, implies_true, and_true]
    decide
  · intro h
    have hmarked := (split_appendToText_iff hbase hu ha _).mp h "b?c".toList
      (List.mem_cons_self ..) '?' (List.mem_cons_self ..)
    exact hmarked (by decide)

end UriMount

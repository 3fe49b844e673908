import UriMount.Proofs.Dots
import UriMount.Proofs.RoundTrip

/-!
# Appending in several steps

Appended segments lie under the path without the slashes at its end, and do not end with a slash
themselves. So segments may be appended in one step or in several, and only the segments that
contribute count, in their order and without the slashes around them.
-/

namespace UriMount

open Text Reference

/-- The segments that contribute are found in each part of a list by itself. -/
theorem cleanSegments_append (xs ys : List (Option Text)) :
    cleanSegments (xs ++ ys) = cleanSegments xs ++ cleanSegments ys := by
  simp only [cleanSegments, List.filterMap_append, List.filter_append]

/-- A segment in a list contributes between the segments around it. -/
theorem cleanSegments_insert (xs : List (Option Text)) (segment : Option Text)
    (ys : List (Option Text)) : cleanSegments (xs ++ segment :: ys) =
      cleanSegments xs ++ (cleanSegments [segment] ++ cleanSegments ys) := by
  rw [cleanSegments_append, ← List.singleton_append, cleanSegments_append]

/-- A segment contributes what is left of it between slashes, if anything is. -/
theorem cleanSegments_singleton (t : Text) :
    cleanSegments [some t] = [trim isSlash t].filter (· != []) := rfl

/-- A segment that contributes does not end with a slash. -/
theorem getLast?_of_mem_cleanSegments {segments : List (Option Text)} {p : Text}
    (hp : p ∈ cleanSegments segments) {c : Char} (hc : p.getLast? = some c) :
    isSlash c = false := by
  obtain ⟨⟨t, -, rfl⟩, -⟩ := mem_cleanSegments.mp hp
  exact eq_false_of_getLast?_trimEnd hc

/-- Segments that contribute do not end with a slash under the root either. -/
theorem getLast?_underRoot_cleanSegments {segments : List (Option Text)} {c : Char}
    (hc : (underRoot (cleanSegments segments)).getLast? = some c) : isSlash c = false := by
  rcases List.eq_nil_or_concat (cleanSegments segments) with h | ⟨front, last, h⟩
  · rw [h] at hc
    cases hc
  · have hlast : last ∈ cleanSegments segments := by
      rw [h, List.concat_eq_append]
      exact List.mem_append_right _ (List.mem_singleton_self last)
    have hne : last ≠ [] := (mem_cleanSegments.mp hlast).2
    rw [h, List.concat_eq_append, underRoot_append, underRoot_cons, underRoot_nil,
      List.append_nil, List.append_cons, List.getLast?_append_of_ne_nil _ hne] at hc
    exact getLast?_of_mem_cleanSegments hlast hc

namespace Uri

/-- Segments that contribute lie under the path without the slashes at its end. -/
theorem append_of_ne_nil (u : Uri) {segments : List (Option Text)}
    (h : cleanSegments segments ≠ []) :
    u.append segments =
      { u with path := trimEnd isSlash u.path ++ underRoot (cleanSegments segments) } := by
  unfold append
  split
  · rename_i hnil
    exact absurd hnil h
  · cases hs : cleanSegments segments with
    | nil => exact absurd hs h
    | cons p ps => rw [intercalate_cons, underRoot_cons]

/-- Segments that do not contribute change nothing. -/
theorem append_of_eq_nil (u : Uri) {segments : List (Option Text)}
    (h : cleanSegments segments = []) : u.append segments = u := by
  rw [append, h]

/-- Lists with the same contributing segments extend a URI alike. -/
theorem append_congr (u : Uri) {xs ys : List (Option Text)}
    (h : cleanSegments xs = cleanSegments ys) : u.append xs = u.append ys := by
  rw [append, append, h]

/-- Without the slashes at its end, an extended path is the path that was extended and the
segments under it, whether there are any or not. -/
theorem trimEnd_path_append (u : Uri) (segments : List (Option Text)) :
    trimEnd isSlash (u.append segments).path =
      trimEnd isSlash u.path ++ underRoot (cleanSegments segments) := by
  by_cases h : cleanSegments segments = []
  · rw [append_of_eq_nil u h, h, underRoot_nil, List.append_nil]
  · rw [append_of_ne_nil u h, trimEnd_append fun c => eq_false_of_getLast?_trimEnd,
      trimEnd_of_getLast? fun c => getLast?_underRoot_cleanSegments]

/-- Segments that are appended one list after the other are appended as one list. -/
theorem append_append (u : Uri) (xs ys : List (Option Text)) :
    (u.append xs).append ys = u.append (xs ++ ys) := by
  have hclean := cleanSegments_append xs ys
  by_cases h : cleanSegments ys = []
  · rw [append_of_eq_nil _ h]
    apply append_congr
    rw [hclean, h, List.append_nil]
  · have hne : cleanSegments (xs ++ ys) ≠ [] := by
      rw [hclean]
      exact List.append_ne_nil_of_right_ne_nil _ h
    rw [append_of_ne_nil _ h, append_of_ne_nil u hne, trimEnd_path_append, hclean,
      underRoot_append, List.append_assoc, append_scheme, append_authority, append_query,
      append_fragment]

end Uri

/-! ## Lists that are written differently -/

/-- The second list is the first one with a segment put in that does not contribute, or with
slashes put around a segment. -/
inductive IsPadded : List (Option Text) → List (Option Text) → Prop
  /-- An absent segment is put in. -/
  | absent (xs ys : List (Option Text)) : IsPadded (xs ++ ys) (xs ++ none :: ys)
  /-- A segment of slashes alone is put in, or the empty one. -/
  | slashes (k : Nat) (xs ys : List (Option Text)) :
    IsPadded (xs ++ ys) (xs ++ some (List.replicate k '/') :: ys)
  /-- Slashes are put in front of a segment and behind it. -/
  | around (j k : Nat) (t : Text) (xs ys : List (Option Text)) :
    IsPadded (xs ++ some t :: ys)
      (xs ++ some (List.replicate j '/' ++ t ++ List.replicate k '/') :: ys)

private theorem isSlash_of_mem_replicate (k : Nat) :
    ∀ c ∈ List.replicate k '/', isSlash c = true := by
  intro c hc
  rw [List.eq_of_mem_replicate hc]
  rfl

/-- What is put into a list to pad it does not contribute. -/
theorem IsPadded.cleanSegments_eq {xs ys : List (Option Text)} (h : IsPadded xs ys) :
    cleanSegments xs = cleanSegments ys := by
  cases h with
  | absent xs ys =>
    have hnone : cleanSegments [none] = [] := rfl
    rw [cleanSegments_insert, hnone, List.nil_append, cleanSegments_append]
  | slashes k xs ys =>
    have htrim : trim isSlash (List.replicate k '/') = [] := by
      rw [← List.nil_append (List.replicate k '/'),
        trim_append_of_forall (isSlash_of_mem_replicate k)]
      rfl
    have hnone : cleanSegments [some (List.replicate k '/')] = [] := by
      rw [cleanSegments_singleton, htrim]
      rfl
    rw [cleanSegments_insert, hnone, List.nil_append, cleanSegments_append]
  | around j k t xs ys =>
    have htrim : trim isSlash (List.replicate j '/' ++ t ++ List.replicate k '/') =
        trim isSlash t := by
      rw [trim_append_of_forall (isSlash_of_mem_replicate k),
        trim_append_of_forall_left (isSlash_of_mem_replicate j)]
    rw [cleanSegments_insert, cleanSegments_insert, cleanSegments_singleton,
      cleanSegments_singleton, htrim]

/-- Lists that come from one another by putting in and taking out what pads them have the same
contributing segments. -/
theorem cleanSegments_eq_of_eqvGen {xs ys : List (Option Text)}
    (h : Relation.EqvGen IsPadded xs ys) : cleanSegments xs = cleanSegments ys := by
  induction h with
  | rel xs ys hpadded => exact hpadded.cleanSegments_eq
  | refl xs => rfl
  | symm xs ys _ ih => exact ih.symm
  | trans xs ys zs _ _ ihxy ihyz => exact ihxy.trans ihyz

/-- Segments may be appended in two steps or in one, and absent segments, empty ones and
slashes may be put among them, around them and be taken out again. Whether it fails or not, the
result is the same. -/
theorem appendTo_appendTo (base : Option Source) :
    (∀ xs ys, (do appendTo (some (.split (← appendTo base xs))) ys) =
        appendTo base (xs ++ ys)) ∧
      ∀ xs ys, Relation.EqvGen IsPadded xs ys → appendTo base xs = appendTo base ys := by
  constructor
  · intro xs ys
    cases hu : readUri baseArgument base with
    | error e =>
      simp only [appendTo, hu, Except.map, bind, Except.bind]
    | ok u =>
      simp only [appendTo, hu, readUri_split, Except.map, bind, Except.bind, u.append_append]
  · intro xs ys h
    have hclean := cleanSegments_eq_of_eqvGen h
    simp only [appendTo, Uri.append_congr _ hclean]

/-- A path of slashes alone, and a list of segments that is padded in three places. -/
theorem appendTo_appendTo_of_slashes :
    ∃ xs ys, Relation.EqvGen IsPadded xs ys ∧ xs ≠ ys ∧
      appendTo (some (.text " Http://h//?q".toList)) xs =
        .ok ⟨"http".toList, "h".toList, "/b//c".toList, "q".toList, []⟩ ∧
      appendTo (some (.text " Http://h//?q".toList)) xs =
        appendTo (some (.text " Http://h//?q".toList)) ys := by
  let xs : List (Option Text) := [some "b//c".toList]
  let ys : List (Option Text) := [none, some "//b//c/".toList, some "///".toList]
  have habsent : IsPadded xs [none, some "b//c".toList] := .absent [] _
  have haround : IsPadded [none, some "b//c".toList] [none, some "//b//c/".toList] :=
    .around 2 1 "b//c".toList [none] []
  have hslashes : IsPadded [none, some "//b//c/".toList] ys :=
    .slashes 3 [none, some "//b//c/".toList] []
  have hpadded : Relation.EqvGen IsPadded xs ys :=
    ((Relation.EqvGen.rel _ _ habsent).trans _ _ _ (.rel _ _ haround)).trans _ _ _
      (.rel _ _ hslashes)
  exact ⟨xs, ys, hpadded, by decide, by rfl, (appendTo_appendTo _).2 xs ys hpadded⟩

end UriMount

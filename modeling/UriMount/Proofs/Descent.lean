import UriMount.Proofs.Depth
import UriMount.Proofs.Slashes
import UriMount.Proofs.RoundTrip

/-!
# Below a mount

A mount whose path has only ordinary segments is not left by a reference that goes up
no more often than it has gone down: the reference is resolved as at the root of the host,
below the path of the mount. Where it only goes down, resolving it, appending its segments
and putting it below the mount all lead to one URI.
-/

namespace UriMount

open Text Reference

/-! ## Paths below a mount with ordinary segments -/

namespace Mount

/-- The segments of the path of a mount, behind the empty one in front of the first slash. -/
def segments (m : Mount) : List Text := (Reference.segments m.basePath).tail

section

variable {m : Mount} (hhosted : m.base.Hosted) (hordinary : ∀ s ∈ m.segments, IsOrdinary s)

include hordinary in
/-- A relative path goes on from the segments of the mount. -/
theorem trail_directory (path : Text) :
    trail m.directory path =
      m.segments ++ (Reference.segments path).dropLast.filter (· != []) := by
  have hfilter : m.segments.filter (· != []) = m.segments :=
    filter_of_ne_nil fun s hs => (hordinary s hs).1
  rw [trail, List.filter_append, m.filter_below_directory]
  exact congrArg (· ++ _) hfilter

include hhosted in
/-- The path of a mount is the root with its segments. -/
theorem underRoot_segments : underRoot m.segments = m.basePath :=
  underRoot_tail_segments (isRooted_basePath hhosted)

include hhosted hordinary

/-- A relative path that never goes up above where it begins leads to the same place below
the mount as below the root. -/
theorem rooted_mergedPath_directory {path : Text} (hp : path.head? ≠ some '/')
    (hstays : StaysWithin 0 (Reference.segments path)) :
    Uri.rooted (mergedPath m.directory path) =
      m.basePath ++ Uri.rooted (mergedPath ['/'] path) := by
  have hroot : trail ['/'] path = (Reference.segments path).dropLast.filter (· != []) := rfl
  have hinner : StaysWithin 0 ((Reference.segments path).dropLast.filter (· != []) ++
      [afterLast '/' path]) := by
    rw [segments_eq_concat] at hstays
    exact hstays.filter_append
  have hdirectory : IsRooted m.directory := hhosted.path_isRooted
  rw [rooted_mergedPath_of_relative hdirectory hp,
    rooted_mergedPath_of_relative (Or.inr rfl) hp, hroot, trail_directory hordinary,
    hinner.withoutDots_append fun s hs => (hordinary s hs).2, underRoot_append,
    underRoot_segments hhosted]

/-- Ordinary segments lead down from the mount, one after the other. -/
theorem rooted_mergedPath_intercalate {segs : List Text} (hne : segs ≠ [])
    (hsegs : ∀ s ∈ segs, IsOrdinary s ∧ '/' ∉ s) :
    Uri.rooted (mergedPath m.directory (['/'].intercalate segs)) =
      m.basePath ++ '/' :: ['/'].intercalate segs := by
  have hsegments : Reference.segments (['/'].intercalate segs) = segs :=
    segments_intercalate hne fun s hs => (hsegs s hs).2
  obtain ⟨first, rest, rfl⟩ := List.exists_cons_of_ne_nil hne
  have hhead : (['/'].intercalate (first :: rest)).head? ≠ some '/' := by
    obtain ⟨hfirst, hslash⟩ := hsegs first (List.mem_cons_self ..)
    obtain ⟨c, t, rfl⟩ := List.exists_cons_of_ne_nil hfirst.1
    rw [intercalate_cons]
    exact fun hn => hslash (Option.some.inj hn ▸ List.mem_cons_self ..)
  have htrail : trail m.directory (['/'].intercalate (first :: rest)) ++
      [afterLast '/' (['/'].intercalate (first :: rest))] = m.segments ++ (first :: rest) := by
    have hfilter : ((first :: rest).dropLast).filter (· != []) = (first :: rest).dropLast :=
      filter_of_ne_nil fun s hs => (hsegs s (List.dropLast_subset _ hs)).1.1
    have hconcat := segments_eq_concat (['/'].intercalate (first :: rest))
    rw [hsegments] at hconcat
    rw [trail_directory hordinary, hsegments, hfilter, List.append_assoc, ← hconcat]
  have hdots : ∀ s ∈ m.segments ++ (first :: rest), ¬IsDots s := by
    intro s hs
    rcases List.mem_append.mp hs with hs | hs
    · exact (hordinary s hs).2
    · exact (hsegs s hs).1.2
  have hdirectory : IsRooted m.directory := hhosted.path_isRooted
  rw [rooted_mergedPath_of_relative hdirectory hhead, htrail, withoutDots_of_forall hdots,
    underRoot_append, underRoot_segments hhosted, intercalate_cons, underRoot_cons]

end

/-- At the root of the host of a mount there is a mount too, with a hosted and clean base. -/
theorem exists_root {m : Mount} (h : m.base.IsBase) :
    ∃ root, ofSource (some (.split ⟨m.scheme, m.authority, [], [], []⟩)) = .ok root ∧
      root.base = { m.base with path := ['/'] } ∧ root.base.IsBase := by
  have hmountable : Uri.IsMountable ⟨m.scheme, m.authority, [], [], []⟩ :=
    m.isMountable_of_origin rfl rfl
  obtain ⟨root, hroot, hbase⟩ := exists_ofSource_split hmountable
  have heq : root.base = { m.base with path := ['/'] } := hbase
  refine ⟨root, hroot, heq, ?_⟩
  have hnot : ';' ∉ afterLast '/' ['/'] := by decide
  rw [heq]
  refine { h with path_isRooted := Or.inr rfl, of_mem_path := fun c hc => ?_, not_mem := hnot }
  rw [List.mem_singleton.mp hc]
  decide

end Mount

/-! ## Containment -/

/-- A reference whose path goes up no more often than it has gone down is resolved at a
mount with ordinary segments as at the root of its host, with the path of the mount in
front. So it never leaves the mount. -/
theorem resolve_eq_basePath_append {source : Source} (hsource : source.IsWritten) {m : Mount}
    (hm : Mount.ofSource (some source) = .ok m) (hordinary : ∀ s ∈ m.segments, IsOrdinary s)
    {reference : Text} {r : Uri} (hr : IsLocal reference r) (hne : r.path ≠ [])
    (hhead : r.path.head? ≠ some '/') (hparams : ';' ∉ afterLast '/' r.path)
    (hstays : StaysWithin 0 (Reference.segments r.path)) :
    ∃ root target, Mount.ofSource (some (.split ⟨m.scheme, m.authority, [], [], []⟩)) = .ok root ∧
      root.resolve reference = .ok target ∧
      m.resolve reference = .ok { target with path := m.basePath ++ target.path } ∧
      m.basePath ++ ['/'] <+: m.basePath ++ target.path := by
  have hbase := Mount.isBase hsource hm
  obtain ⟨root, hroot, hrootEq, hrootBase⟩ := Mount.exists_root hbase
  have hreference : reference ≠ [] := by
    rintro rfl
    obtain rfl := Except.ok.inj (Uri.split_nil.symm.trans hr.split)
    exact hne rfl
  have htarget := Uri.localTarget_of_not_mem hbase.not_mem hr.authority hne hparams
  have hrootTarget := Uri.localTarget_of_not_mem hrootBase.not_mem hr.authority hne hparams
  have hpath := Mount.rooted_mergedPath_directory hbase.toHosted hordinary hhead hstays
  refine ⟨root, root.base.localTarget r, hroot,
    Mount.resolve_of_isLocal hrootBase.toHosted hrootBase.toClean hr hreference, ?_, ?_⟩
  · rw [Mount.resolve_of_isLocal hbase.toHosted hbase.toClean hr hreference, htarget,
      hrootTarget, hrootEq]
    exact congrArg (fun path => Except.ok { m.base with
      path := path, query := r.query, fragment := r.fragment }) hpath
  · rw [List.prefix_append_right_inj, hrootTarget, hrootEq]
    exact List.singleton_prefix_iff_head?_eq_some.mpr
      (Uri.head?_rooted (mergedPath_ne_nil ['/'] r.path))

/-- Down and up again to where it began, below a path with parameters inside. -/
theorem resolve_eq_basePath_append_of_return :
    ∃ m r, Mount.ofSource (some (.text " App://u@h:1/a;x/b//?q".toList)) = .ok m ∧
      (∀ s ∈ m.segments, IsOrdinary s) ∧ IsLocal "c//./d/../../e;z/..#f".toList r ∧
      StaysWithin 0 (Reference.segments r.path) ∧
      ∃ root target,
        Mount.ofSource (some (.split ⟨m.scheme, m.authority, [], [], []⟩)) = .ok root ∧
        root.resolve "c//./d/../../e;z/..#f".toList = .ok target ∧
        m.resolve "c//./d/../../e;z/..#f".toList =
          .ok { target with path := m.basePath ++ target.path } ∧
        m.basePath ++ ['/'] <+: m.basePath ++ target.path := by
  let m : Mount :=
    ⟨"app".toList, "u@h:1".toList, "/a;x/b//".toList, by decide, by rfl, by rfl, by rfl⟩
  let r : Uri := ⟨[], [], "c//./d/../../e;z/..".toList, [], "f".toList⟩
  have hm : Mount.ofSource (some (.text " App://u@h:1/a;x/b//?q".toList)) = .ok m := by rfl
  have hsource := Source.isWritten_text " App://u@h:1/a;x/b//?q".toList
  have hordinary : ∀ s ∈ m.segments, IsOrdinary s := by decide
  have hr : IsLocal "c//./d/../../e;z/..#f".toList r := ⟨by rfl, rfl, rfl⟩
  have hstays : StaysWithin 0 (Reference.segments r.path) := by decide
  exact ⟨m, r, hm, hordinary, hr, hstays,
    resolve_eq_basePath_append hsource hm hordinary hr (by decide) (by decide) (by decide) hstays⟩

/-! ## Going down only -/

/-- Segments that can be written behind one another as a reference that only goes down:
reading takes nothing in them for a mark or for a part of its own. -/
structure IsPlain (segs : List Text) : Prop where
  /-- There is a segment. -/
  ne_nil : segs ≠ []
  /-- Every segment goes down. -/
  isOrdinary : ∀ s ∈ segs, IsOrdinary s
  /-- No segment holds a slash, a mark or a character that is passed over. -/
  not_mem : ∀ s ∈ segs, ∀ c ∈ ['/', '?', '#', '\t', '\r', '\n'], c ∉ s
  /-- The first segment names no scheme and starts with a character that may lead. -/
  of_head? : ∀ s, segs.head? = some s → ':' ∉ s ∧ ∀ c, s.head? = some c → Uri.isLeading c = false
  /-- The last segment has no parameters. -/
  of_getLast? : ∀ s, segs.getLast? = some s → ';' ∉ s

namespace IsPlain

variable {segs : List Text} (h : IsPlain segs)
include h

/-- The segments are read back from the reference. -/
theorem segments_intercalate : Reference.segments (['/'].intercalate segs) = segs :=
  Reference.segments_intercalate h.ne_nil fun s hs => h.not_mem s hs '/' (by decide)

/-- The last segment stands behind the last slash of the reference. -/
theorem not_mem_afterLast : ';' ∉ afterLast '/' (['/'].intercalate segs) := by
  have hconcat := segments_eq_concat (['/'].intercalate segs)
  rw [h.segments_intercalate] at hconcat
  exact h.of_getLast? _ ((congrArg List.getLast? hconcat).trans List.getLast?_concat)

/-- The reference holds neither a mark nor a character that is passed over. -/
theorem of_mem_intercalate {c : Char} (hc : c ∈ ['/'].intercalate segs) :
    c ≠ '?' ∧ c ≠ '#' ∧ Uri.isSkipped c = false := by
  rcases mem_intercalate hc with rfl | ⟨s, hs, hm⟩
  · decide
  · have hnot : c ∉ ['/', '?', '#', '\t', '\r', '\n'] := fun hmark => h.not_mem s hs c hmark hm
    simp only [List.mem_cons, List.not_mem_nil, or_false, not_or] at hnot
    simp only [Uri.isSkipped, Bool.or_eq_false_iff, beq_eq_false_iff_ne]
    exact ⟨hnot.2.1, hnot.2.2.1, ⟨hnot.2.2.2.1, hnot.2.2.2.2.1⟩, hnot.2.2.2.2.2⟩

/-- The reference starts with a character that may lead and is no slash. -/
theorem exists_cons_intercalate : ∃ c t, ['/'].intercalate segs = c :: t ∧ c ≠ '/' ∧
    Uri.isLeading c = false := by
  obtain ⟨first, rest, rfl⟩ := List.exists_cons_of_ne_nil h.ne_nil
  obtain ⟨c, t, rfl⟩ :=
    List.exists_cons_of_ne_nil (h.isOrdinary first (List.mem_cons_self ..)).1
  have hslash := h.not_mem _ (List.mem_cons_self ..) '/' (by decide)
  have hlead := (h.of_head? _ List.head?_cons).2 c List.head?_cons
  exact ⟨c, t ++ underRoot rest, intercalate_cons _ _,
    fun he => hslash (he ▸ List.mem_cons_self ..),
    hlead⟩

/-- The reference opens with no scheme: a colon stands behind the first slash, if at all. -/
theorem not_opens_intercalate : Scheme.opens (['/'].intercalate segs) = false := by
  obtain ⟨first, rest, rfl⟩ := List.exists_cons_of_ne_nil h.ne_nil
  have hfirst := (h.of_head? first List.head?_cons).1
  cases rest with
  | nil =>
    rw [List.intercalate_singleton]
    exact Scheme.opens_of_not_mem hfirst
  | cons second rest =>
    have hslash : ':' ∉ first ++ ['/'] := by
      rw [List.mem_append, not_or]
      exact ⟨hfirst, by decide⟩
    rw [List.intercalate_cons_cons]
    exact Scheme.opens_append (Scheme.opens_of_not_mem hslash)
      (List.mem_append_right _ (List.mem_cons_self ..)) _

/-- The reference is read as its path. -/
theorem isLocal_intercalate :
    IsLocal (['/'].intercalate segs) ⟨[], [], ['/'].intercalate segs, [], []⟩ := by
  obtain ⟨c, t, ht, hc, hl⟩ := h.exists_cons_intercalate
  have hsignificant : Uri.significant (['/'].intercalate segs) = ['/'].intercalate segs := by
    have hdrop : (['/'].intercalate segs).dropWhile Uri.isLeading = ['/'].intercalate segs := by
      apply dropWhile_of_head?
      rw [ht]
      rintro d hd
      cases hd
      exact hl
    rw [Uri.significant, hdrop, Uri.filter_isSkipped fun d hd => (h.of_mem_intercalate hd).2.2]
  have hhead : (['/'].intercalate segs).head? ≠ some '/' := by
    rw [ht]
    exact fun he => hc (Option.some.inj he)
  have hq : '?' ∉ ['/'].intercalate segs := fun hm => (h.of_mem_intercalate hm).1 rfl
  have hf : '#' ∉ ['/'].intercalate segs := fun hm => (h.of_mem_intercalate hm).2.1 rfl
  refine ⟨?_, rfl, rfl⟩
  rw [Uri.split_eq_ok_iff]
  refine ⟨?_, Authority.fault?_nil⟩
  rw [Uri.parts, hsignificant, Uri.cut_of_not_opens h.not_opens_intercalate hhead,
    Uri.withRest_of_not_mem _ hq hf]

/-- All segments contribute when they are appended, as they are. -/
theorem cleanSegments_eq : cleanSegments (segs.map some) = segs := by
  have htrim : ∀ s ∈ segs, trim isSlash s = s := by
    intro s hs
    have hslash {c : Char} (hc : c ∈ s) : isSlash c = false := by
      rw [isSlash, beq_eq_false_iff_ne]
      rintro rfl
      exact h.not_mem s hs '/' (by decide) hc
    rw [trim, dropWhile_of_head? fun c hc => hslash (List.mem_of_head? hc)]
    exact trimEnd_of_getLast? fun c hc => hslash (List.mem_of_getLast? hc)
  have hmap : (segs.map some).filterMap (·.map (trim isSlash)) = segs := by
    rw [List.filterMap_map]
    exact (List.filterMap_congr fun s hs => congrArg some (htrim s hs)).trans List.filterMap_some
  rw [cleanSegments, hmap, filter_of_ne_nil fun s hs => (h.isOrdinary s hs).1]

end IsPlain

/-- At a mount with ordinary segments, resolving a reference that only goes down, appending
its segments to the mount and putting it below the path of the mount lead to one URI. -/
theorem resolve_intercalate_eq_append {source : Source} (hsource : source.IsWritten) {m : Mount}
    (hm : Mount.ofSource (some source) = .ok m) (hordinary : ∀ s ∈ m.segments, IsOrdinary s)
    {segs : List Text} (hsegs : IsPlain segs) :
    ∃ u, m.uri = .ok u ∧
      m.resolve (['/'].intercalate segs) = .ok { u with path := m.path (['/'].intercalate segs) } ∧
      appendTo (some (.split u)) (segs.map some) =
        .ok { u with path := m.path (['/'].intercalate segs) } := by
  obtain ⟨hhosted, hclean, hbase⟩ := Mount.isBase hsource hm
  obtain ⟨c, t, ht, hc, -⟩ := hsegs.exists_cons_intercalate
  have hne : ['/'].intercalate segs ≠ [] := by
    rw [ht]
    exact List.cons_ne_nil c t
  have hpath : m.path (['/'].intercalate segs) = m.basePath ++ '/' :: ['/'].intercalate segs := by
    have hhead : (['/'].intercalate segs).head? ≠ some '/' := by
      rw [ht]
      exact fun he => hc (Option.some.inj he)
    rw [Mount.path, if_neg hne, if_neg hhead]
  have hmerged := Mount.rooted_mergedPath_intercalate hhosted hordinary hsegs.ne_nil fun s hs =>
    ⟨hsegs.isOrdinary s hs, hsegs.not_mem s hs '/' (by decide)⟩
  refine ⟨_, Mount.uri_of_clean hhosted hclean, ?_, ?_⟩
  · rw [Mount.resolve_of_isLocal hhosted hclean hsegs.isLocal_intercalate hne,
      Uri.localTarget_of_not_mem hbase rfl hne hsegs.not_mem_afterLast, hpath, ← hmerged]
    rfl
  · change Except.ok (Uri.append _ _) = _
    have htrim : trimEnd isSlash m.basePath = m.basePath :=
      List.rdropWhile_idempotent isSlash m.directory
    obtain ⟨first, rest, rfl⟩ := List.exists_cons_of_ne_nil hsegs.ne_nil
    simp only [Uri.append, hsegs.cleanSegments_eq, htrim, hpath]

/-- Segments with semicolons and a colon, below a path with parameters. -/
theorem resolve_intercalate_eq_append_of_params :
    ∃ source m segs, Source.IsWritten source ∧ Mount.ofSource (some source) = .ok m ∧
      (∀ s ∈ m.segments, IsOrdinary s) ∧ ['/'].intercalate segs = "b;c/d:e /...".toList ∧
      IsPlain segs ∧
      ∃ u, m.uri = .ok u ∧
        m.resolve (['/'].intercalate segs) =
          .ok { u with path := m.path (['/'].intercalate segs) } ∧
        appendTo (some (.split u)) (segs.map some) =
          .ok { u with path := m.path (['/'].intercalate segs) } := by
  let source : Source :=
    .params { scheme := "ws".toList, authority := "h:1".toList, path := "/a".toList,
              params := "p".toList, query := "q".toList, fragment := "f".toList }
  let m : Mount := ⟨"ws".toList, "h:1".toList, "/a;p/".toList, by decide, by rfl, by rfl, by rfl⟩
  have hsource : source.IsWritten := trivial
  have hm : Mount.ofSource (some source) = .ok m := by rfl
  have hordinary : ∀ s ∈ m.segments, IsOrdinary s := by decide
  have hsegs : IsPlain ["b;c".toList, "d:e ".toList, "...".toList] := by
    refine ⟨by decide, by decide, ?_, ?_, ?_⟩
    · simp only [List.forall_mem_cons, List.not_mem_nil, false_implies, implies_true, and_true]
      decide
    · rintro s hs
      cases hs
      refine ⟨by decide, ?_⟩
      rintro c hc
      cases hc
      decide
    · rintro s hs
      cases hs
      decide
  exact ⟨source, m, _, hsource, hm, hordinary, by decide, hsegs,
    resolve_intercalate_eq_append hsource hm hordinary hsegs⟩

end UriMount

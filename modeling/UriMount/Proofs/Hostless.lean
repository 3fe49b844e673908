import UriMount.Proofs.Extensions
import UriMount.Proofs.RoundTrip

/-!
# URIs without an authority

A written URI need not name an authority. Writing what was read of it and reading that again
keeps the scheme, the query and the fragment, and finds no authority either, unless the path
opens with two slashes and a name: nothing is written in front of such a path, and it is
taken for an authority.
-/

namespace UriMount

open Text

/-! ## Authorities that a path shows -/

namespace Authority

/-- Two slashes show an authority when a character that does not end it stands behind them. -/
theorem cut_fst_ne_nil_iff {t : Text} :
    (cut t).1 ≠ [] ↔ ∃ c r, t = '/' :: '/' :: c :: r ∧ isEnd c = false := by
  constructor
  · intro h
    obtain ⟨r, rfl⟩ := exists_announced h
    cases r with
    | nil => exact absurd rfl h
    | cons c r =>
      refine ⟨c, r, rfl, ?_⟩
      by_contra hc
      rw [Bool.not_eq_false] at hc
      exact h (by simp only [cut, List.takeWhile_cons, hc, Bool.not_true, Bool.false_eq_true,
        ite_false])
  · rintro ⟨c, r, rfl, hc⟩
    simp only [cut, List.takeWhile_cons, hc, Bool.not_false, ite_true, ne_eq, List.cons_ne_nil,
      not_false_eq_true]

/-- A mark behind a path does not change the authority that the path shows. -/
theorem cut_append_of_isTail {t : Text} (ht : Uri.IsTail t) (p : Text) :
    cut (p ++ t) = ((cut p).1, (cut p).2 ++ t) := by
  by_cases h : ∃ r, p = '/' :: '/' :: r
  · obtain ⟨r, rfl⟩ := h
    exact cut_announced_append r ht.isRest
  · have hslash : ∀ r, t ≠ '/' :: r := by
      rintro r rfl
      rcases ht '/' List.head?_cons with h | h <;> cases h
    have hp : ∀ r, p ≠ '/' :: '/' :: r := fun r hr => h ⟨r, hr⟩
    have hpt : ∀ r, p ++ t ≠ '/' :: '/' :: r := by
      intro r hr
      rcases p with _ | ⟨a, _ | ⟨b, p⟩⟩
      · exact hslash _ hr
      · exact hslash r (List.cons.inj hr).2
      · rw [List.cons_append, List.cons_append] at hr
        simp only [List.cons.injEq] at hr
        exact hp p (by rw [hr.1, hr.2.1])
    rw [cut_of_not_announced hp, cut_of_not_announced hpt]

end Authority

/-! ## Texts that can stand first -/

/-- A text that can stand first in a written URI: it opens with no scheme, and its first
character may lead. -/
structure IsBare (t : Text) : Prop where
  /-- The text opens with no scheme. -/
  opens : Scheme.opens t = false
  /-- The first character may lead. -/
  of_head? : ∀ c, t.head? = some c → Uri.isLeading c = false

namespace IsBare

theorem nil : IsBare [] := ⟨rfl, fun c hc => by cases hc⟩

/-- The start of a bare text is bare. -/
theorem of_isPrefix {p t : Text} (h : IsBare t) (hp : p <+: t) : IsBare p := by
  obtain ⟨r, rfl⟩ := hp
  refine ⟨?_, fun c hc => h.of_head? c (List.mem_head?_append_of_mem_head? hc)⟩
  by_contra ho
  simp only [Bool.not_eq_false, Scheme.opens, Bool.and_eq_true, List.contains_iff_mem] at ho
  have hopens : Scheme.opens (p ++ r) = true := by
    simp only [Scheme.opens, before_append_of_mem ho.1, ho.2, Bool.and_true,
      List.contains_iff_mem, List.mem_append, ho.1, true_or]
  rw [h.opens] at hopens
  cases hopens

/-- A bare text stays bare when text that starts with an end character is put behind it. -/
theorem append {p t : Text} (h : IsBare p) (ht : Authority.IsRest t) : IsBare (p ++ t) := by
  constructor
  · by_contra ho
    simp only [Bool.not_eq_false, Scheme.opens, Bool.and_eq_true, List.contains_iff_mem] at ho
    by_cases hc : ':' ∈ p
    · have hopens := h.opens
      rw [before_append_of_mem hc] at ho
      simp only [Scheme.opens, List.contains_iff_mem.mpr hc, ho.2, Bool.and_true,
        Bool.true_eq_false] at hopens
    · cases t with
      | nil => exact hc (by simpa only [List.append_nil] using ho.1)
      | cons d t =>
        -- The end character would stand in the scheme.
        have hd := ht d List.head?_cons
        simp only [Authority.isEnd, Bool.or_eq_true, beq_iff_eq] at hd
        have hmem : d ∈ before ':' (p ++ d :: t) := by
          rw [before_append hc, before, List.takeWhile_cons_of_pos]
          · exact List.mem_append_right _ (List.mem_cons_self ..)
          · rcases hd with (rfl | rfl) | rfl <;> rfl
        have hscheme := Scheme.isSchemeChar_of_mem ho.2 hmem
        rcases hd with (rfl | rfl) | rfl <;> exact absurd hscheme (by decide)
  · intro c hc
    cases p with
    | nil => exact Uri.isLeading_of_isEnd (ht c hc)
    | cons d p => exact h.of_head? c hc

end IsBare

namespace Uri

/-- What is read starts with a character that may lead. -/
theorem isLeading_of_head?_significant {t : Text} {c : Char}
    (h : (significant t).head? = some c) : isLeading c = false := by
  have hdrop := List.head?_dropWhile_not isLeading t
  cases ht : t.dropWhile isLeading with
  | nil =>
    rw [significant, ht] at h
    cases h
  | cons d r =>
    rw [ht, List.head?_cons] at hdrop
    have hd : isSkipped d = false := isSkipped_of_not_isLeading hdrop
    rw [significant, ht, List.filter_cons_of_pos (by rw [hd]; rfl), List.head?_cons] at h
    rwa [← Option.some.inj h]

/-! ## Hostless URIs -/

/-- A URI without an authority as it is read. -/
structure Hostless (u : Uri) : Prop where
  /-- The scheme is missing or as it is read. -/
  scheme_isRead : u.scheme = [] ∨ Scheme.IsRead u.scheme
  /-- There is no authority. -/
  authority_eq_nil : u.authority = []
  /-- Where the scheme is missing, the path can stand first. -/
  isBare_path : u.scheme = [] → IsBare u.path

/-- A URI that was read without an authority is hostless. -/
theorem hostless_of_split {t : Text} {u : Uri} (h : split t = .ok u) (ha : u.authority = []) :
    u.Hostless := by
  obtain ⟨rfl, -⟩ := split_eq_ok_iff.mp h
  refine ⟨Scheme.isRead_cut _, ha, fun hs => ?_⟩
  have hopens := Scheme.opens_of_cut_fst_eq_nil hs
  have hcut : Scheme.cut (significant t) = ([], significant t) := Scheme.cut_of_not_opens hopens
  have hauthority : (Authority.cut (significant t)).1 = [] := by
    change (Authority.cut (Scheme.cut (significant t)).2).1 = [] at ha
    rwa [hcut] at ha
  have hpath : (parts t).path <+: (Authority.cut (significant t)).2 := by
    change before '?' (before '#' (Authority.cut (Scheme.cut (significant t)).2).2) <+: _
    rw [hcut]
    exact (before_isPrefix _ _).trans (before_isPrefix _ _)
  rcases Authority.cut_of_fst_eq_nil hauthority with ht | ht
  · rw [ht] at hpath
    exact IsBare.of_isPrefix ⟨hopens, fun c => isLeading_of_head?_significant⟩ hpath
  · exact (IsBare.nil.append ht).of_isPrefix hpath

/-- Appending segments leaves a URI hostless. -/
theorem Hostless.append {u : Uri} (h : u.Hostless) (segments : List (Option Text)) :
    (u.append segments).Hostless := by
  unfold Uri.append
  split
  · exact h
  · refine { h with isBare_path := fun hs => ?_ }
    refine ((h.isBare_path hs).of_isPrefix (List.rdropWhile_prefix isSlash u.path)).append ?_
    intro c hc
    cases hc
    rfl

/-- What is written behind the scheme of a URI without an authority is its path, or two
slashes and its path, which then shows no authority. -/
theorem renderHierarchy_of_authority_eq_nil {u : Uri} (ha : u.authority = []) :
    u.renderHierarchy = u.path ∨ u.scheme ≠ [] ∧ (Authority.cut u.path).1 = [] ∧
      u.renderHierarchy = '/' :: '/' :: rooted u.path := by
  unfold renderHierarchy
  split
  · rename_i h
    simp only [announcesAuthority, ha, bne_self_eq_false, Bool.false_or, Bool.and_eq_true,
      bne_iff_ne, Bool.not_eq_true'] at h
    refine Or.inr ⟨h.1.1, ?_, by rw [ha]; rfl⟩
    by_contra hc
    obtain ⟨r, hr⟩ := Authority.exists_announced hc
    rw [hr] at h
    cases h.2
  · exact Or.inl rfl

/-- The URI with all that is written between its scheme and its query as its path. -/
def pathOnly (u : Uri) : Uri := { u with path := u.renderHierarchy }

theorem render_eq_renderScheme_append (u : Uri) : u.render = u.renderScheme ++ u.pathOnly.rest := by
  simp only [render, rest, pathOnly, List.append_assoc]

namespace Hostless

variable {u : Uri} (h : u.Hostless) (hc : u.Clean)
include h

/-- An authority is shown behind the scheme exactly when the path shows one. -/
theorem cut_renderHierarchy :
    (Authority.cut u.renderHierarchy).1 = (Authority.cut u.path).1 := by
  rcases renderHierarchy_of_authority_eq_nil h.authority_eq_nil with he | ⟨-, hp, he⟩
  · rw [he]
  · have hcut : Authority.cut ('/' :: '/' :: ([] ++ rooted u.path)) = ([], rooted u.path) :=
      Authority.cut_append (fun c hc => absurd hc List.not_mem_nil) (isRooted_rooted u.path).isRest
    rw [he, hp]
    exact congrArg Prod.fst hcut

/-- Where the scheme is missing, what is written in its place can stand first. -/
theorem isBare_rest_pathOnly (hs : u.scheme = []) : IsBare u.pathOnly.rest := by
  have hpath : IsBare u.renderHierarchy := by
    rcases renderHierarchy_of_authority_eq_nil h.authority_eq_nil with he | ⟨hn, -⟩
    · rw [he]
      exact h.isBare_path hs
    · exact absurd hs hn
  rw [rest, List.append_assoc]
  exact hpath.append (isTail_marks _ _).isRest

include hc

/-- Nothing in front of the query is taken for a mark or passed over. -/
theorem clean_pathOnly : u.pathOnly.Clean := by
  refine { hc with of_mem_path := fun c hm => ?_ }
  have hslash : '/' ≠ '?' ∧ '/' ≠ '#' ∧ isSkipped '/' = false := by decide
  change c ∈ u.renderHierarchy at hm
  rcases renderHierarchy_of_authority_eq_nil h.authority_eq_nil with he | ⟨-, -, he⟩
  · rw [he] at hm
    exact hc.of_mem_path c hm
  · rw [he] at hm
    rcases List.mem_cons.mp hm with rfl | hm
    · exact hslash
    · rcases List.mem_cons.mp hm with rfl | hm
      · exact hslash
      · rcases mem_rooted hm with rfl | hm
        · exact hslash
        · exact hc.of_mem_path c hm

/-- A written URI without an authority is read whole. -/
theorem significant_render : significant u.render = u.render := by
  have hskipped : ∀ c ∈ u.render, isSkipped c = false := by
    intro c hm
    rw [render_eq_renderScheme_append] at hm
    rcases List.mem_append.mp hm with hm | hm
    · exact isSkipped_of_mem_renderScheme h.scheme_isRead hm
    · exact (h.clean_pathOnly hc).isSkipped_of_mem_rest hm
  have hlead : ∀ c, u.render.head? = some c → isLeading c = false := by
    intro c hm
    rw [render_eq_renderScheme_append] at hm
    rcases h.scheme_isRead with hs | hs
    · rw [renderScheme, if_pos hs, List.nil_append] at hm
      exact (h.isBare_rest_pathOnly hs).of_head? c hm
    · obtain ⟨d, t, ht, hd⟩ := Scheme.exists_cons_of_isScheme hs.1
      rw [renderScheme, ht] at hm
      cases hm
      exact isLeading_of_isAlpha hd
  rw [significant, dropWhile_of_head? hlead, filter_isSkipped hskipped]

/-- A written URI without an authority is read with the authority that its path shows. All
components but the path come back. -/
theorem parts_render :
    parts u.render = { u with
      authority := (Authority.cut u.path).1
      path := (Authority.cut u.renderHierarchy).2 } := by
  have hcut : Scheme.cut u.render = (u.scheme, u.pathOnly.rest) := by
    rw [render_eq_renderScheme_append]
    exact cut_renderScheme_append h.scheme_isRead fun hs => (h.isBare_rest_pathOnly hs).opens
  let marks := marked '?' u.query ++ marked '#' u.fragment
  have hrest : u.pathOnly.rest = u.renderHierarchy ++ marks := List.append_assoc _ _ _
  have hmarks : Authority.cut (u.renderHierarchy ++ marks) =
      ((Authority.cut u.renderHierarchy).1, (Authority.cut u.renderHierarchy).2 ++ marks) :=
    Authority.cut_append_of_isTail (isTail_marks _ _) u.renderHierarchy
  let v : Uri := { u with
    authority := (Authority.cut u.path).1
    path := (Authority.cut u.renderHierarchy).2 }
  have hclean : v.Clean :=
    { hc with of_mem_path := fun c hm =>
        (h.clean_pathOnly hc).of_mem_path c (Authority.mem_of_mem_cut_snd hm) }
  have hread := hclean.withRest_rest
  rw [rest, List.append_assoc] at hread
  rw [parts, h.significant_render hc, cut, hcut, hrest, hmarks, h.cut_renderHierarchy]
  exact hread

/-- A URI without an authority keeps its origin when it is written and read again, exactly
when its path shows no authority. -/
theorem exists_split_render_iff :
    (∃ v, split u.render = .ok v ∧ v.scheme = u.scheme ∧ v.authority = u.authority ∧
        v.query = u.query ∧ v.fragment = u.fragment) ↔ (Authority.cut u.path).1 = [] := by
  have hparts := h.parts_render hc
  constructor
  · rintro ⟨v, hv, -, ha, -⟩
    rw [← (split_eq_ok_iff.mp hv).1, hparts] at ha
    exact ha.trans h.authority_eq_nil
  · intro hp
    refine ⟨_, split_eq_ok_iff.mpr ⟨hparts, ?_⟩, rfl, ?_, rfl, rfl⟩
    · rw [hp]
      exact Authority.fault?_nil
    · rw [hp, h.authority_eq_nil]

end Hostless

/-! ## Appending and writing -/

/-- The segments that contribute do not start with a slash. -/
theorem head?_intercalate_cleanSegments (segments : List (Option Text)) :
    (['/'].intercalate (cleanSegments segments)).head? ≠ some '/' := by
  cases hs : cleanSegments segments with
  | nil => exact fun h => by cases h
  | cons p ps =>
    obtain ⟨⟨t, -, ht⟩, hne⟩ := mem_cleanSegments.mp (hs ▸ List.mem_cons_self ..)
    intro hj
    have hp : p.head? = some '/' := by
      cases ps with
      | nil => rwa [List.intercalate_singleton] at hj
      | cons q qs =>
        rwa [List.intercalate_cons_cons, List.append_assoc, List.head?_append_of_ne_nil _ hne] at hj
    have hslash := List.head?_dropWhile_not isSlash t
    obtain ⟨r, hr⟩ : p <+: t.dropWhile isSlash :=
      ht ▸ List.rdropWhile_prefix isSlash (t.dropWhile isSlash)
    rw [← hr, List.head?_append_of_ne_nil _ hne, hp] at hslash
    cases hslash

/-- Text behind a slash that takes the place of the slashes at the end of a path does not
change whether the path shows an authority. -/
theorem cut_trimEnd_append_ne_nil_iff {path t : Text} (ht : t.head? ≠ some '/') :
    (Authority.cut (trimEnd isSlash path ++ '/' :: t)).1 ≠ [] ↔ (Authority.cut path).1 ≠ [] := by
  simp only [Authority.cut_fst_ne_nil_iff]
  constructor
  · rintro ⟨c, r, hr, hc⟩
    obtain ⟨tail, htail, -⟩ := exists_trimEnd_append isSlash path
    have hlast : ∀ x, (trimEnd isSlash path).getLast? = some x → isSlash x = false :=
      fun x => eq_false_of_getLast?_trimEnd
    rw [← htail]
    generalize trimEnd isSlash path = p at hr hlast ⊢
    -- Both slashes stand in the trimmed path, which does not end with either of them.
    rcases p with _ | ⟨a, _ | ⟨b, _ | ⟨d, p⟩⟩⟩
    · rw [List.nil_append, List.cons.injEq] at hr
      exact absurd (by rw [hr.2, List.head?_cons]) ht
    · simp only [List.cons_append, List.cons.injEq] at hr
      cases hlast '/' (by rw [hr.1, List.getLast?_singleton])
    · simp only [List.cons_append, List.cons.injEq] at hr
      cases hlast '/' (by rw [hr.2.1, List.getLast?_cons_cons, List.getLast?_singleton])
    · simp only [List.cons_append, List.cons.injEq] at hr
      obtain ⟨rfl, rfl, rfl, -⟩ := hr
      exact ⟨d, p ++ tail, rfl, hc⟩
  · rintro ⟨c, r, rfl, hc⟩
    have hlast : ∀ x, ['/', '/', c].getLast? = some x → isSlash x = false := by
      rintro x hx
      cases hx
      simp only [Authority.isEnd, Bool.or_eq_false_iff] at hc
      exact hc.1.1
    refine ⟨c, trimEnd isSlash r ++ '/' :: t, ?_, hc⟩
    rw [← List.cons_append, ← List.cons_append, ← List.cons_append]
    exact congrArg (· ++ _) (trimEnd_append hlast r)

/-- Appending segments neither gives a path an authority to show nor takes one from it. -/
theorem cut_append_path_eq_nil_iff (u : Uri) (segments : List (Option Text)) :
    (Authority.cut (u.append segments).path).1 = [] ↔ (Authority.cut u.path).1 = [] := by
  unfold append
  split
  · rfl
  · exact not_iff_not.mp (cut_trimEnd_append_ne_nil_iff (head?_intercalate_cleanSegments segments))

end Uri

/-- Segments without marks and without characters that are passed over, appended to a
written URI, leave the scheme, the authority, the query and the fragment as they are when
the result is written and read again. The exceptions are the URIs without an authority
whose path shows one. -/
theorem exists_split_appendToText_iff {base : Source} (hbase : base.IsWritten) {u : Uri}
    (hu : readUri baseArgument (some base) = .ok u) {segments : List (Option Text)}
    (hsegments : ∀ t, some t ∈ segments → ∀ c ∈ ['?', '#', '\t', '\r', '\n'], c ∉ t) :
    (∃ v, (do Error.ofSplit (Uri.split (← appendToText (some base) segments))) = .ok v ∧
        v.scheme = u.scheme ∧ v.authority = u.authority ∧ v.query = u.query ∧
        v.fragment = u.fragment) ↔
      u.authority ≠ [] ∨ (Authority.cut u.path).1 = [] := by
  have hread := readUri_eq_ok_iff.mp hu
  have hclean := (Uri.clean_append_iff (hbase.clean hread)).mpr hsegments
  rw [appendToText_of_readUri hu]
  simp only [bind, Except.bind, Error.ofSplit_eq_ok_iff]
  by_cases hn : u.authority = []
  · obtain ⟨t, ht⟩ := hbase.exists_split
    have hhostless := (Uri.hostless_of_split (ht.symm.trans hread) hn).append segments
    have hiff := hhostless.exists_split_render_iff hclean
    simpa only [Uri.append_scheme, Uri.append_authority, Uri.append_query, Uri.append_fragment,
      Uri.cut_append_path_eq_nil_iff, hn, ne_eq, not_true_eq_false, false_or] using hiff
  · have hhosted := (hbase.hosted hread hn).append segments
    refine iff_of_true ⟨u.append segments, ?_, u.append_scheme segments,
      u.append_authority segments, u.append_query segments, u.append_fragment segments⟩ (Or.inl hn)
    rw [hhosted.split_render, hclean.reread_eq]

/-- A path with more than two slashes in front is taken for no authority. -/
theorem exists_split_appendToText_iff_of_slashes :
    ∃ base u, Source.IsWritten base ∧ readUri baseArgument (some base) = .ok u ∧
      u.authority = [] ∧
      ∃ v, (do Error.ofSplit (Uri.split
            (← appendToText (some base) [none, some "/x:y//".toList]))) = .ok v ∧
        v.scheme = u.scheme ∧ v.authority = u.authority ∧ v.query = u.query ∧
        v.fragment = u.fragment := by
  let base : Source := .text " Http:///////h//?q#f".toList
  have hbase : base.IsWritten := trivial
  have hu : readUri baseArgument (some base) =
      .ok ⟨"http".toList, [], "/////h//".toList, "q".toList, "f".toList⟩ := by rfl
  refine ⟨base, _, hbase, hu, rfl, (exists_split_appendToText_iff hbase hu ?_).mpr ?_⟩
  · intro t ht
    obtain rfl : t = "/x:y//".toList := by
      simpa only [List.mem_cons, reduceCtorEq, Option.some.injEq, List.not_mem_nil, or_false,
        false_or] using ht
    simp only [List.forall_mem_cons, List.not_mem_nil, false_implies, implies_true, and_true]
    decide
  · exact Or.inr (by rfl)

/-- Not every origin is kept: a path behind an empty authority that opens with two slashes
and a name is written without the empty authority, and the name becomes the authority. -/
theorem not_exists_split_appendToText_of_hidden :
    ¬∀ (written : Text) (u : Uri) (segments : List (Option Text)),
      readUri baseArgument (some (.text written)) = .ok u →
      (∀ t, some t ∈ segments → ∀ c ∈ ['?', '#', '\t', '\r', '\n'], c ∉ t) →
      ∃ v, (do Error.ofSplit (Uri.split
            (← appendToText (some (.text written)) segments))) = .ok v ∧
        v.scheme = u.scheme ∧ v.authority = u.authority ∧ v.query = u.query ∧
        v.fragment = u.fragment := by
  intro h
  have hu : readUri baseArgument (some (.text "http:////h/app".toList)) =
      .ok ⟨"http".toList, [], "//h/app".toList, [], []⟩ := by rfl
  have hv : (do Error.ofSplit (Uri.split
      (← appendToText (some (.text "http:////h/app".toList)) [some "auth".toList]))) =
      .ok ⟨"http".toList, "h".toList, "/app/auth".toList, [], []⟩ := by rfl
  have hsegments : ∀ t, some t ∈ [some "auth".toList] →
      ∀ c ∈ ['?', '#', '\t', '\r', '\n'], c ∉ t := by
    intro t ht
    obtain rfl : t = "auth".toList := by
      simpa only [List.mem_singleton, Option.some.injEq] using ht
    simp only [List.forall_mem_cons, List.not_mem_nil, false_implies, implies_true, and_true]
    decide
  obtain ⟨v, hv', -, ha, -⟩ := h _ _ _ hu hsegments
  obtain rfl := Except.ok.inj (hv.symm.trans hv')
  exact absurd ha (by decide)

end UriMount

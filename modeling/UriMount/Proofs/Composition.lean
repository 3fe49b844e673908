import UriMount.Proofs.Mounts

/-!
# Resolving in two steps

A directory reference leads to a URI that can be mounted again, and a second
reference resolved there leads where both references written behind one another
lead. In between the URI is written, read and mounted; a walk of dots that went
past the root goes on from the root. Only a bare pair of slashes is no directory
for all references: it takes what is written behind it for an authority.
-/

namespace UriMount

open Text

/-! ## Reading references behind one another -/

/-- From nothing, and from a bare pair of slashes, an empty authority is cut and nothing is left. -/
theorem Authority.eq_nil_or_of_cut {t : Text} (ha : (cut t).1 = []) (hr : (cut t).2 = []) :
    t = [] ∨ t = ['/', '/'] := by
  by_cases hslashes : ∃ r, t = '/' :: '/' :: r
  · obtain ⟨r, rfl⟩ := hslashes
    have hnil : r = [] := by
      rw [← List.takeWhile_append_dropWhile (p := (!isEnd ·)) (l := r)]
      exact List.append_eq_nil_iff.mpr ⟨ha, hr⟩
    exact Or.inr (by rw [hnil])
  · rw [cut_of_not_announced fun r he => hslashes ⟨r, he⟩] at hr
    exact Or.inl hr

/-- A pair of slashes in front of a query or a fragment announces an empty authority. -/
theorem Uri.cut_slashes_append {t : Text} (ht : Authority.IsRest t) :
    cut ('/' :: '/' :: t) = withRest ⟨[], [], [], [], []⟩ t := by
  have hs : Scheme.cut ('/' :: '/' :: t) = ([], '/' :: '/' :: t) :=
    Scheme.cut_of_not_opens (Scheme.opens_cons_slash _)
  have ha : Authority.cut ('/' :: '/' :: t) = ([], t) :=
    @Authority.cut_append [] t (List.forall_mem_nil _) ht
  simp only [cut, hs, ha, withRest]

/-- A written directory reference: it ends with a slash, shows neither a query nor a
fragment, and is read as a local reference whose path is not rooted. -/
structure IsDirectory (reference : Text) (r : Uri) : Prop extends IsLocal reference r where
  /-- The reference ends with a slash. -/
  getLast?_eq : reference.getLast? = some '/'
  /-- The reference shows neither a query nor a fragment. -/
  not_mem : '?' ∉ reference ∧ '#' ∉ reference
  /-- The path is not rooted. -/
  head?_ne : r.path.head? ≠ some '/'

/-- A written local reference that can stand behind a directory reference: it starts
neither with a character that may not lead nor with a slash. -/
structure IsContinuation (reference : Text) (r : Uri) : Prop extends IsLocal reference r where
  /-- The reference starts with a character that may lead and is no slash. -/
  of_head? : ∀ c, reference.head? = some c → Uri.isLeading c = false ∧ c ≠ '/'

/-- A continuation is read from its first character on. -/
theorem IsContinuation.head?_significant {reference : Text} {r : Uri}
    (h : IsContinuation reference r) : (Uri.significant reference).head? = reference.head? := by
  cases reference with
  | nil => rfl
  | cons c t =>
    obtain ⟨hl, -⟩ := h.of_head? c List.head?_cons
    have hs : Uri.isSkipped c = false := Uri.isSkipped_of_not_isLeading hl
    rw [Uri.significant, List.dropWhile_cons_of_neg (by simp only [hl, Bool.false_eq_true,
      not_false_eq_true]), List.filter_cons_of_pos (by rw [hs]; rfl), List.head?_cons,
      List.head?_cons]

/-- What is read of a continuation does not start with a slash either. -/
theorem IsContinuation.head?_significant_ne {reference : Text} {r : Uri}
    (h : IsContinuation reference r) : (Uri.significant reference).head? ≠ some '/' := by
  rw [h.head?_significant]
  exact fun hc => (h.of_head? '/' hc).2 rfl

/-- The parts of a continuation have no rooted path. -/
theorem IsContinuation.head?_localParts {reference : Text} {r : Uri}
    (h : IsContinuation reference r) (base : Uri) :
    (base.localParts r).path.head? ≠ some '/' := by
  have hr : r.path <+: Uri.significant reference := by
    rw [← h.eq_cut, Uri.cut_of_not_opens h.not_opens h.head?_significant_ne]
    exact (before_isPrefix _ _).trans (before_isPrefix _ _)
  intro hn
  rw [← List.singleton_prefix_iff_head?_eq_some] at hn
  exact h.head?_significant_ne (List.singleton_prefix_iff_head?_eq_some.mp
    ((hn.trans (Uri.localParts_path_isPrefix base r)).trans hr))

namespace IsDirectory

variable {reference : Text} {r : Uri} (h : IsDirectory reference r)
include h

theorem not_mem_significant :
    '?' ∉ Uri.significant reference ∧ '#' ∉ Uri.significant reference :=
  ⟨fun hm => h.not_mem.1 (Uri.mem_of_mem_significant hm),
    fun hm => h.not_mem.2 (Uri.mem_of_mem_significant hm)⟩

/-- What is read of a directory reference ends with a slash. -/
theorem getLast?_significant : (Uri.significant reference).getLast? = some '/' := by
  obtain ⟨p, rfl⟩ := List.getLast?_eq_some_iff.mp h.getLast?_eq
  rw [Uri.significant, List.dropWhile_append]
  split
  · rfl
  · rw [List.filter_append]
    exact List.getLast?_concat

/-- A directory reference is all path, behind two slashes that may introduce it. -/
theorem eq_path : r = ⟨[], [], (Authority.cut (Uri.significant reference)).2, [], []⟩ := by
  let t := Uri.significant reference
  have hs : Scheme.cut t = ([], t) := Scheme.cut_of_not_opens h.not_opens
  have ha : (Authority.cut t).1 = [] := h.authority_cut_eq_nil
  have hq : '?' ∉ (Authority.cut t).2 := fun hm =>
    h.not_mem_significant.1 (Authority.mem_of_mem_cut_snd hm)
  have hf : '#' ∉ (Authority.cut t).2 := fun hm =>
    h.not_mem_significant.2 (Authority.mem_of_mem_cut_snd hm)
  rw [← h.eq_cut]
  change Uri.cut t = _
  simp only [Uri.cut, hs, ha, before_of_not_mem hf, after_of_not_mem hf, before_of_not_mem hq,
    after_of_not_mem hq]
  rfl

/-- A directory reference with a path is its path. -/
theorem significant_eq (hne : r.path ≠ []) : Uri.significant reference = r.path := by
  have hpath : r.path = (Authority.cut (Uri.significant reference)).2 := congrArg Uri.path h.eq_path
  rcases Authority.cut_of_fst_eq_nil h.authority_cut_eq_nil with ht | ht
  · exact ht.symm.trans hpath.symm
  · rw [← hpath] at ht
    obtain ⟨c, t, hc⟩ := List.exists_cons_of_ne_nil hne
    have hmem : c ∈ Uri.significant reference :=
      Authority.mem_of_mem_cut_snd (hpath ▸ hc ▸ List.mem_cons_self ..)
    have hend := ht c (by rw [hc, List.head?_cons])
    simp only [Authority.isEnd, Bool.or_eq_true, beq_iff_eq] at hend
    rcases hend with (rfl | rfl) | rfl
    · exact absurd (by rw [hc, List.head?_cons]) h.head?_ne
    · exact absurd hmem h.not_mem_significant.1
    · exact absurd hmem h.not_mem_significant.2

/-- A directory reference without a path is a bare pair of slashes. -/
theorem significant_eq_of_path_eq_nil (hn : r.path = []) :
    Uri.significant reference = ['/', '/'] := by
  have hpath : (Authority.cut (Uri.significant reference)).2 = [] :=
    (congrArg Uri.path h.eq_path).symm.trans hn
  refine (Authority.eq_nil_or_of_cut h.authority_cut_eq_nil hpath).resolve_left fun ht => ?_
  have hlast := h.getLast?_significant
  rw [ht] at hlast
  cases hlast

/-- The path of a directory reference ends with a slash, if there is one. -/
theorem getLast?_path (hne : r.path ≠ []) : r.path.getLast? = some '/' := by
  rw [← h.significant_eq hne]
  exact h.getLast?_significant

variable {continuation : Text} {s : Uri} (hs : IsContinuation continuation s)
include hs

/-- A directory reference and a continuation are read behind one another. -/
theorem significant_append : Uri.significant (reference ++ continuation) =
    Uri.significant reference ++ Uri.significant continuation :=
  Uri.significant_append (List.mem_of_getLast? h.getLast?_eq) (by decide) fun c hc =>
    (hs.of_head? c hc).1

/-- Behind a directory reference with a path, the path goes on. -/
theorem cut_append_of_path_ne_nil (hne : r.path ≠ []) :
    Uri.cut (Uri.significant (reference ++ continuation)) =
      { s with path := r.path ++ s.path } := by
  have hopens := Scheme.opens_append h.not_opens
    (List.mem_of_getLast? h.getLast?_significant) (Uri.significant continuation)
  have hq := h.not_mem_significant.1
  have hf := h.not_mem_significant.2
  rw [h.significant_eq hne] at hopens hq hf
  have hhead : (r.path ++ Uri.significant continuation).head? ≠ some '/' := by
    rw [List.head?_append_of_ne_nil _ hne]
    exact h.head?_ne
  have hread := hs.eq_cut
  rw [Uri.cut_of_not_opens hs.not_opens hs.head?_significant_ne] at hread
  rw [h.significant_append hs, h.significant_eq hne, Uri.cut_of_not_opens hopens hhead, ← hread]
  simp only [Uri.withRest, before_append hf, after_append hf, before_append hq, after_append hq]

/-- Behind a bare pair of slashes, a query or a fragment is read as it is by itself. -/
theorem cut_append_of_path_eq_nil (hn : r.path = []) (hrest : Authority.IsRest continuation) :
    Uri.cut (Uri.significant (reference ++ continuation)) = s := by
  have hsignificant : Authority.IsRest (Uri.significant continuation) := by
    intro c hc
    exact hrest c (hs.head?_significant ▸ hc)
  rw [h.significant_append hs, h.significant_eq_of_path_eq_nil hn]
  calc Uri.cut ('/' :: '/' :: Uri.significant continuation)
      = Uri.withRest ⟨[], [], [], [], []⟩ (Uri.significant continuation) :=
        Uri.cut_slashes_append hsignificant
    _ = Uri.cut (Uri.significant continuation) :=
        (Uri.cut_of_not_opens hs.not_opens hs.head?_significant_ne).symm
    _ = s := hs.eq_cut

/-- A local reference behind a directory reference is read as one whose path goes on, unless it
stands behind a bare pair of slashes and would be taken for an authority. -/
theorem isLocal_append (hread : r.path ≠ [] ∨ Authority.IsRest continuation) :
    IsLocal (reference ++ continuation) { s with path := r.path ++ s.path } := by
  refine ⟨?_, hs.scheme, hs.authority⟩
  rw [Uri.split_eq_ok_iff]
  refine ⟨?_, hs.authority ▸ Authority.fault?_nil⟩
  by_cases hn : r.path = []
  · rw [Uri.parts, h.cut_append_of_path_eq_nil hs hn (hread.resolve_left (absurd hn)), hn]
    rfl
  · exact h.cut_append_of_path_ne_nil hs hn

/-- Behind a bare pair of slashes, everything else is taken for an authority. -/
theorem authority_parts_append_ne_nil (hn : r.path = []) {c : Char}
    (hc : continuation.head? = some c) (hend : Authority.isEnd c = false) :
    (Uri.parts (reference ++ continuation)).authority ≠ [] := by
  obtain ⟨t, ht⟩ := List.head?_eq_some_iff.mp (hs.head?_significant.trans hc)
  have hread : Uri.significant (reference ++ continuation) = '/' :: '/' :: c :: t := by
    rw [h.significant_append hs, h.significant_eq_of_path_eq_nil hn, ht]
    rfl
  rw [Uri.parts, hread, Uri.cut, Scheme.cut_of_not_opens (Scheme.opens_cons_slash _)]
  change (c :: t).takeWhile (!Authority.isEnd ·) ≠ []
  simp only [List.takeWhile_cons, hend, Bool.not_false, ite_true, ne_eq, reduceCtorEq,
    not_false_eq_true]

end IsDirectory

/-! ## Resolving at the mount that a directory reference leads to -/

namespace Mount

section

variable {m : Mount} (hhosted : m.base.Hosted) {reference : Text} {r : Uri}
  (hr : IsDirectory reference r)
include hr

/-- The parts of a directory reference are its path alone. -/
theorem localParts_directory :
    (m.base.localParts r).path = r.path ∧ (m.base.localParts r).params = [] := by
  have hp : ';' ∉ afterLast '/' r.path := by
    by_cases hn : r.path = []
    · rw [hn]
      exact List.not_mem_nil
    · rw [afterLast_of_getLast? (hr.getLast?_path hn)]
      exact List.not_mem_nil
  rw [Uri.localParts_of_not_mem m.base hp]
  exact ⟨rfl, rfl⟩

include hhosted

/-- A directory reference without a path leads to the base. -/
theorem localTarget_directory_of_path_eq_nil (hn : r.path = []) :
    m.base.localTarget r = m.base := by
  obtain ⟨hp, hparams⟩ := m.localParts_directory hr
  rw [Uri.localTarget_of_pathless m.not_mem_base hr.authority hhosted.path_isRooted
    ⟨hp.trans hn, hparams⟩, hr.eq_path]
  rfl

omit hhosted in
/-- A directory reference with a path leads down that path from the directory. -/
theorem localTarget_directory_of_path_ne_nil (hn : r.path ≠ []) :
    m.base.localTarget r =
      { m.base with path := Uri.rooted (Reference.mergedPath m.base.path r.path) } := by
  obtain ⟨hp, hparams⟩ := m.localParts_directory hr
  rw [Uri.localTarget_of_path m.not_mem_base hr.authority (by rw [hp]; exact fun h => hn h.1),
    hp, hparams, marked_nil, List.append_nil, hr.eq_path]
  rfl

/-- A directory reference leads to the base of a mount. -/
theorem baseAt_localTarget_directory :
    baseAt (m.base.localTarget r) = m.base.localTarget r := by
  by_cases hn : r.path = []
  · rw [localTarget_directory_of_path_eq_nil hhosted hr hn]
    exact baseAt_eq_self m.directory_getLast? rfl rfl
  · rw [localTarget_directory_of_path_ne_nil hr hn]
    refine baseAt_eq_self ?_ rfl rfl
    rw [Reference.rooted_mergedPath_of_getLast? hhosted.path_isRooted (hr.getLast?_path hn)
      hr.head?_ne, Reference.underRoot_append]
    exact List.getLast?_concat

/-- Where a directory reference leads there are no parameters. -/
theorem not_mem_localTarget_directory : ';' ∉ afterLast '/' (m.base.localTarget r).path := by
  have hp : asDirectory (m.base.localTarget r).path = (m.base.localTarget r).path :=
    congrArg Uri.path (baseAt_localTarget_directory hhosted hr)
  rw [afterLast_of_getLast? (hp ▸ getLast?_asDirectory _)]
  exact List.not_mem_nil

/-- From where a directory reference leads, a local one leads where both do. -/
theorem localTarget_localTarget {continuation : Text} {s : Uri}
    (hs : IsContinuation continuation s) :
    (m.base.localTarget r).localTarget s =
      m.base.localTarget { s with path := r.path ++ s.path } := by
  by_cases hn : r.path = []
  · rw [localTarget_directory_of_path_eq_nil hhosted hr hn, hn]
    rfl
  let stop := m.base.localTarget r
  let parts := m.base.localParts s
  have hparts : stop.localParts s = parts := rfl
  have hboth : m.base.localParts { s with path := r.path ++ s.path } =
      { parts with path := r.path ++ parts.path } :=
    ParamUri.ofUri_append (hr.getLast?_path hn)
      { s with scheme := Scheme.forReferences m.base.scheme }
  have hstop : ';' ∉ afterLast '/' stop.path := not_mem_localTarget_directory hhosted hr
  have htarget := localTarget_directory_of_path_ne_nil (m := m) hr hn
  have hpath : stop.path = Uri.rooted (Reference.mergedPath m.base.path r.path) :=
    congrArg Uri.path htarget
  have hsum := Uri.localTarget_of_path m.not_mem_base
    (r := { s with path := r.path ++ s.path }) hs.authority
    (by rw [hboth]; exact fun h => hn (List.append_eq_nil_iff.mp h.1).1)
  rw [hsum, hboth]
  by_cases hp : parts.path = [] ∧ parts.params = []
  · rw [Uri.localTarget_of_pathless_of_query hstop hs.authority
      (hhosted.localTarget r).path_isRooted (congrArg Uri.query htarget) hp]
    simp only [hpath, hp, List.append_nil, marked_nil]
    rfl
  · have hmerged : Uri.rooted (Reference.mergedPath stop.path parts.path) =
        Uri.rooted (Reference.mergedPath m.base.path (r.path ++ parts.path)) := by
      rw [hpath]
      exact Reference.rooted_mergedPath_append hhosted.path_isRooted (hr.getLast?_path hn)
        hr.head?_ne (hs.head?_localParts m.base)
    rw [Uri.localTarget_of_path hstop hs.authority hp]
    simp only [hparts, hmerged]
    rfl

end

end Mount

/-- Resolving in two steps: where a directory reference leads there is always a mount, and
a local reference leads from there where both references written behind one another lead.
A directory reference without a path, which is a bare pair of slashes, leads to the mount
itself. Behind it this is so for a query, a fragment and nothing at all; everything else is
taken for an authority there. -/
theorem resolve_resolve_append {source : Source} (hsource : source.IsWritten) {m : Mount}
    (hm : Mount.ofSource (some source) = .ok m) {directory : Text} {r : Uri}
    (hr : IsDirectory directory r) {continuation : Text} {s : Uri}
    (hs : IsContinuation continuation s) :
    ∃ stop n, m.resolve directory = .ok stop ∧ Mount.ofSource (some (.split stop)) = .ok n ∧
      (r.path = [] → n = m) ∧
      (r.path ≠ [] ∨ (∀ c, continuation.head? = some c → c = '?' ∨ c = '#') →
        ∃ target, n.resolve continuation = .ok target ∧
          m.resolve (directory ++ continuation) = .ok target) ∧
      (r.path = [] → (∃ c, continuation.head? = some c ∧ c ≠ '?' ∧ c ≠ '#') →
        (Uri.parts (directory ++ continuation)).authority ≠ []) := by
  obtain ⟨hhosted, hclean⟩ := Mount.hosted_clean_base hsource hm
  let stop := m.base.localTarget r
  have hne : directory ≠ [] := List.ne_nil_of_mem (List.mem_of_getLast? hr.getLast?_eq)
  have hstop : m.resolve directory = .ok stop :=
    Mount.resolve_of_isLocal hhosted hclean hr.toIsLocal hne
  have hmountable : stop.IsMountable := ⟨m.scheme_ne_nil, m.host_isSome, m.port_isOk⟩
  obtain ⟨n, hn, hbase⟩ := Mount.exists_ofSource_split hmountable
  rw [Mount.baseAt_localTarget_directory hhosted hr] at hbase
  have hnHosted : n.base.Hosted := hbase ▸ hhosted.localTarget r
  have hnClean : n.base.Clean :=
    hbase ▸ hclean.localTarget (Uri.clean_of_split hr.split) hr.authority
  refine ⟨stop, n, hstop, hn, fun hp => ?_, fun hread => ?_, fun hp ⟨c, hc, hmarks⟩ => ?_⟩
  · exact Mount.base_injective
      (hbase.trans (Mount.localTarget_directory_of_path_eq_nil hhosted hr hp))
  · by_cases hc : continuation = []
    · subst hc
      refine ⟨n.base, Mount.resolve_nil hnHosted hnClean, ?_⟩
      rw [List.append_nil, hstop, hbase]
    · have hrest : r.path ≠ [] ∨ Authority.IsRest continuation := by
        refine hread.imp_right fun hmarks c hc => ?_
        rcases hmarks c hc with rfl | rfl <;> rfl
      refine ⟨n.base.localTarget s, Mount.resolve_of_isLocal hnHosted hnClean hs.toIsLocal hc, ?_⟩
      rw [Mount.resolve_of_isLocal hhosted hclean (hr.isLocal_append hs hrest)
        (fun h => hne (List.append_eq_nil_iff.mp h).1), hbase]
      exact congrArg Except.ok (Mount.localTarget_localTarget hhosted hr hs).symm
  · refine hr.authority_parts_append_ne_nil hs hp hc ?_
    simp only [Authority.isEnd, Bool.or_eq_false_iff, beq_eq_false_iff_ne]
    exact ⟨⟨(hs.of_head? c hc).2, hmarks.1⟩, hmarks.2⟩

/-- Both steps go past the root, at a scheme without relative references; a query behind a bare
pair of slashes. -/
theorem resolve_resolve_append_past_root :
    ∃ m r s, Mount.ofSource (some (.text "app://h:1/a;b/c?q".toList)) = .ok m ∧
      IsDirectory "../..//d/../../e;p/".toList r ∧ IsContinuation "../../../f;g/.;k?x".toList s ∧
      (∃ stop n target, m.resolve "../..//d/../../e;p/".toList = .ok stop ∧
        Mount.ofSource (some (.split stop)) = .ok n ∧
        n.resolve "../../../f;g/.;k?x".toList = .ok target ∧
        m.resolve "../..//d/../../e;p/../../../f;g/.;k?x".toList = .ok target) ∧
      ∃ target, m.resolve "?x".toList = .ok target ∧ m.resolve "//?x".toList = .ok target := by
  let m : Mount := ⟨"app".toList, "h:1".toList, "/a;b/c/".toList, by decide, by rfl, by rfl, by rfl⟩
  have hm : Mount.ofSource (some (.text "app://h:1/a;b/c?q".toList)) = .ok m := by rfl
  have hr : IsDirectory "../..//d/../../e;p/".toList
      ⟨[], [], "../..//d/../../e;p/".toList, [], []⟩ := by
    exact ⟨⟨by rfl, rfl, rfl⟩, by rfl, ⟨by decide, by decide⟩, by decide⟩
  have hs : IsContinuation "../../../f;g/.;k?x".toList
      ⟨[], [], "../../../f;g/.;k".toList, "x".toList, []⟩ := by
    refine ⟨⟨by rfl, rfl, rfl⟩, ?_⟩
    rintro c hc
    cases hc
    decide
  have hslashes : IsDirectory "//".toList ⟨[], [], [], [], []⟩ :=
    ⟨⟨by rfl, rfl, rfl⟩, by rfl, ⟨by decide, by decide⟩, by decide⟩
  have hquery : IsContinuation "?x".toList ⟨[], [], [], "x".toList, []⟩ := by
    refine ⟨⟨by rfl, rfl, rfl⟩, ?_⟩
    rintro c hc
    cases hc
    decide
  have hsource : (Source.text "app://h:1/a;b/c?q".toList).IsWritten := trivial
  obtain ⟨stop, n, hstop, hn, -, hboth, -⟩ := resolve_resolve_append hsource hm hr hs
  obtain ⟨target, hfirst, hsecond⟩ := hboth (Or.inl (by decide))
  obtain ⟨_, p, -, -, hself, hmarks, -⟩ := resolve_resolve_append hsource hm hslashes hquery
  obtain rfl : p = m := hself rfl
  have hmark : ∀ c, "?x".toList.head? = some c → c = '?' ∨ c = '#' := by
    rintro c hc
    cases hc
    exact Or.inl rfl
  obtain ⟨same, hplain, hbehind⟩ := hmarks (Or.inr hmark)
  exact ⟨_, _, _, hm, hr, hs, ⟨stop, n, target, hstop, hn, hfirst, hsecond⟩, same, hplain, hbehind⟩

/-- Not every local reference may stand behind every directory reference: a bare pair of slashes
leads to the mount itself, but makes an authority of a name that is written behind it. -/
theorem not_resolve_resolve_append_of_pathless :
    ¬∀ (source : Source) (m : Mount) (directory continuation : Text) (r s : Uri),
      source.IsWritten → Mount.ofSource (some source) = .ok m → IsDirectory directory r →
      IsContinuation continuation s →
      ∃ stop n target, m.resolve directory = .ok stop ∧
        Mount.ofSource (some (.split stop)) = .ok n ∧ n.resolve continuation = .ok target ∧
        m.resolve (directory ++ continuation) = .ok target := by
  intro h
  obtain ⟨m, hm, hstop, hn, hfirst, hsecond⟩ :
      ∃ m, Mount.ofSource (some (.text "http://h/p".toList)) = .ok m ∧
        m.resolve "//".toList = .ok m.base ∧ Mount.ofSource (some (.split m.base)) = .ok m ∧
        m.resolve "x".toList = .ok ⟨"http".toList, "h".toList, "/p/x".toList, [], []⟩ ∧
        m.resolve "//x".toList = .ok ⟨"http".toList, "x".toList, [], [], []⟩ :=
    ⟨⟨"http".toList, "h".toList, "/p/".toList, by decide, by rfl, by rfl, by rfl⟩,
      by rfl, by rfl, by rfl, by rfl, by rfl⟩
  have hr : IsDirectory "//".toList ⟨[], [], [], [], []⟩ :=
    ⟨⟨by rfl, rfl, rfl⟩, by rfl, ⟨by decide, by decide⟩, by decide⟩
  have hs : IsContinuation "x".toList ⟨[], [], "x".toList, [], []⟩ := by
    refine ⟨⟨by rfl, rfl, rfl⟩, ?_⟩
    rintro c hc
    cases hc
    decide
  have hsource : (Source.text "http://h/p".toList).IsWritten := trivial
  obtain ⟨stop, n, target, hstop', hn', hfirst', hsecond'⟩ := h _ m _ _ _ _ hsource hm hr hs
  obtain rfl := Except.ok.inj (hstop.symm.trans hstop')
  obtain rfl := Except.ok.inj (hn.symm.trans hn')
  have htarget := Except.ok.inj ((hfirst.symm.trans hfirst').trans (hsecond'.symm.trans hsecond))
  exact absurd (congrArg Uri.authority htarget) (by decide)

end UriMount

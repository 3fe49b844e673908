import UriMount.Proofs.NormalPaths

/-!
# Resolving a result again

What a reference leads to is written out in full and resolved at the same mount. Most results
take another way the second time: a merged path comes with an authority now and is not merged
again. A lone semicolon, which announces parameters and names none, is dropped the first time
and not found again, so every result with an authority leads to itself.
-/

namespace UriMount

open Text Reference

/-! ## Parameters that are taken off and put back -/

namespace ParamUri

/-- A path in which parameters are there where they are announced. -/
def IsSettled (path : Text) : Prop :=
  ∃ front params, path = front ++ marked ';' params ∧ ';' ∉ afterLast '/' front ∧ '/' ∉ params

/-- A path without a semicolon in its last segment announces no parameters. -/
theorem isSettled_of_not_mem {path : Text} (h : ';' ∉ afterLast '/' path) : IsSettled path :=
  ⟨path, [], (List.append_nil path).symm, h, List.not_mem_nil⟩

/-- Where the parameters are taken off, the last segment holds no semicolon. -/
theorem not_mem_afterLast_ofUri_path {u : Uri} (h : Scheme.isParametric u.scheme = true) :
    ';' ∉ afterLast '/' (ofUri u).path := by
  have hslash : '/' ∉ before ';' (afterLast '/' u.path) := fun hm =>
    not_mem_afterLast '/' u.path (mem_of_mem_before hm)
  have hthrough : afterLast '/' (throughLast '/' u.path) = [] := by
    rcases throughLast_eq_nil_or '/' u.path with hn | ⟨s, hs⟩
    · rw [hn]
      rfl
    · rw [hs, afterLast_append_cons]
      rfl
  rw [ofUri, if_pos h]
  simp only [afterLast_append hslash, hthrough, List.nil_append]
  exact not_mem_before ';' _

/-- What is put together from a path and the parameters that were taken off it is settled. -/
theorem isSettled_flatten_ofUri {u : Uri} (h : Scheme.isParametric u.scheme = true) :
    IsSettled (ofUri u).flatten.path :=
  ⟨_, _, rfl, not_mem_afterLast_ofUri_path h, not_mem_ofUri_params u⟩

/-- Parameters that are there are taken off and put back. -/
theorem flatten_ofUri_of_isSettled {u : Uri}
    (h : Scheme.isParametric u.scheme = true → IsSettled u.path) : (ofUri u).flatten = u := by
  unfold ofUri
  split
  · rename_i hparametric
    obtain ⟨front, params, hpath, hfront, hparams⟩ := h hparametric
    have hslash : '/' ∉ marked ';' params := by
      intro hm
      rcases mem_marked hm with hm | hm
      · cases hm
      · exact hparams hm
    simp only [flatten, hpath, afterLast_append hslash, throughLast_append hslash,
      before_append_marked hfront, after_append_marked hfront, throughLast_append_afterLast]
    rw [← hpath]
  · simp only [flatten, marked_nil, List.append_nil]

end ParamUri

/-! ## Destinations of destinations -/

namespace Uri

/-- A URI of the scheme of the base, with an authority and a settled path, stays as it is. -/
theorem networkTarget_eq_self {u y : Uri} (hrel : Scheme.isRelative u.scheme = true)
    (hs : y.scheme = u.scheme)
    (hsettled : Scheme.isParametric u.scheme = true → ParamUri.IsSettled y.path) :
    u.networkTarget y = y := by
  have hself : { y with scheme := u.scheme } = y := by rw [← hs]
  have hparts : u.localParts y = .ofUri y := by
    rw [localParts, Scheme.forReferences_of_isRelative hrel, hself]
  rw [networkTarget, hparts, ParamUri.flatten_ofUri_of_isSettled (hs ▸ hsettled), hself]

section

variable {u r : Uri} (h : u.IsBase)
include h

/-- The path of a local target is settled. -/
theorem IsBase.isSettled_localTarget (ha : r.authority = [])
    (hparametric : Scheme.isParametric (Scheme.forReferences u.scheme) = true) :
    ParamUri.IsSettled (u.localTarget r).path := by
  let parts := u.localParts r
  by_cases hp : parts.path = [] ∧ parts.params = []
  · rw [localTarget_of_pathless h.not_mem ha h.path_isRooted hp]
    exact ParamUri.isSettled_of_not_mem h.not_mem
  · obtain ⟨l, last, hrooted, hsegments, hlast, -⟩ :=
      exists_rooted_mergedPath h.path_isRooted parts.path
    rw [localTarget_of_path h.not_mem ha hp]
    refine ⟨_, _, rfl, ?_, ParamUri.not_mem_ofUri_params _⟩
    rw [hrooted, afterLast_underRoot_concat l (hsegments last List.mem_concat_self).1]
    rcases hlast with rfl | rfl
    · exact ParamUri.not_mem_afterLast_ofUri_path hparametric
    · exact List.not_mem_nil

/-- A destination under a scheme with relative references has a settled path. -/
theorem IsBase.isSettled_destination (hs : u.SharesScheme r)
    (hparametric : Scheme.isParametric (Scheme.forReferences u.scheme) = true) :
    ParamUri.IsSettled (u.destination r).path := by
  by_cases ha : r.authority = []
  · rw [destination_of_local hs ha]
    exact h.isSettled_localTarget ha hparametric
  · rw [destination_of_authority hs ha]
    exact ParamUri.isSettled_flatten_ofUri hparametric

/-- A destination with an authority is its own destination. -/
theorem IsBase.destination_destination (hne : u.scheme ≠ [])
    (ha : (u.destination r).authority ≠ []) :
    u.destination (u.destination r) = u.destination r := by
  by_cases hs : u.SharesScheme r
  · have hscheme := destination_scheme hs
    by_cases hrel : Scheme.isRelative u.scheme = true
    · have hfor := Scheme.forReferences_of_isRelative hrel
      rw [destination_of_authority (Or.inr ⟨hscheme, hrel⟩) ha]
      exact networkTarget_eq_self hrel hscheme fun hparametric =>
        h.isSettled_destination hs (hfor.symm ▸ hparametric)
    · refine destination_of_other (not_or.mpr ⟨?_, fun hn => hrel hn.2⟩)
      rwa [hscheme]
  · rw [destination_of_other hs]
    exact destination_of_other hs

end

end Uri

/-- A reference that leads to a URI with an authority leads to a fixed point: the URI, written
out and resolved at the same mount, is its own result. -/
theorem resolve_render_of_resolve {source : Source} (hsource : source.IsWritten) {m : Mount}
    (hm : Mount.ofSource (some source) = .ok m) {reference : Text} {y : Uri}
    (hy : m.resolve reference = .ok y) (ha : y.authority ≠ []) :
    m.resolve y.render = .ok y := by
  have hbase := Mount.isBase hsource hm
  obtain ⟨r, hr, rfl⟩ := (Mount.resolve_eq_ok_iff hbase).mp hy
  have hread : Uri.split (m.base.destination r).render = .ok (m.base.destination r) := by
    rw [(hbase.hosted_destination hr ha).split_render, (hbase.clean_destination hr).reread_eq]
  exact (Mount.resolve_eq_ok_iff hbase).mpr
    ⟨_, hread, hbase.destination_destination m.scheme_ne_nil ha⟩

/-- A lone semicolon at the end is dropped the first time, and the result, which now names
the authority of the mount, is not merged again. -/
theorem resolve_render_of_resolve_of_semicolon :
    ∃ m y, Mount.ofSource (some (.text " Http://u@H:1/a;b//c?q".toList)) = .ok m ∧
      m.resolve "HTTP:..//d;e/./f;?x".toList = .ok y ∧ y.authority ≠ [] ∧
      y.path = "/a;b/d;e/f".toList ∧ m.resolve y.render = .ok y := by
  let m : Mount :=
    ⟨"http".toList, "u@H:1".toList, "/a;b//c/".toList, by decide, by rfl, by rfl, by rfl⟩
  let y : Uri := ⟨"http".toList, "u@H:1".toList, "/a;b/d;e/f".toList, "x".toList, []⟩
  have hm : Mount.ofSource (some (.text " Http://u@H:1/a;b//c?q".toList)) = .ok m := by rfl
  have hy : m.resolve "HTTP:..//d;e/./f;?x".toList = .ok y := by decide +kernel
  have ha : y.authority ≠ [] := by decide
  exact ⟨m, y, hm, hy, ha, rfl, resolve_render_of_resolve (Source.isWritten_text _) hm hy ha⟩

end UriMount

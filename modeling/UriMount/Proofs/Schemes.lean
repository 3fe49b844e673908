import UriMount.Proofs.Mounts

/-!
# Resolving under any scheme

The scheme of a base decides whether a reference is resolved under it or under a stand-in,
and whether the last segment of a path may carry parameters. The result shows nothing of the
first choice: references without a scheme lead to the same place under every scheme, up to
the scheme itself, and where there are no parameters the second choice does not show either.
-/

namespace UriMount

open Text Reference

namespace Scheme

/-- The schemes with relative references whose paths carry no parameters. -/
def paramless : List Text := relative.filter (!isParametric ·)

/-- Under all other schemes references are resolved with parameters. -/
theorem isParametric_forReferences {scheme : Text} (h : scheme ∉ paramless) :
    isParametric (forReferences scheme) = true := by
  by_cases hr : isRelative scheme = true
  · rw [forReferences_of_isRelative hr]
    by_contra hp
    rw [Bool.not_eq_true] at hp
    refine h (List.mem_filter.mpr ⟨List.contains_iff_mem.mp hr, ?_⟩)
    rw [hp]
    rfl
  · rw [forReferences_of_not_isRelative hr]
    decide

example : paramless =
    ["gopher", "nntp", "wais", "file", "svn", "svn+ssh", "ws", "wss"].map String.toList := by
  decide

end Scheme

/-! ## Parameters under another scheme -/

namespace ParamUri

/-- The characters of a path remain when its parameters are taken off and put back. -/
theorem mem_flatten_path {u : Uri} {c : Char} (h : c ∈ (ofUri u).flatten.path) :
    c = ';' ∨ c ∈ u.path := by
  rcases List.mem_append.mp h with h | h
  · exact Or.inr (mem_path_of_mem_ofUri_path h)
  · exact (mem_marked h).imp_right mem_path_of_mem_ofUri_params

/-- A path that starts with a slash starts with it when its parameters are taken off. -/
theorem head?_ofUri_path {u : Uri} (h : u.path.head? = some '/') :
    (ofUri u).path.head? = some '/' := by
  obtain ⟨t, ht⟩ := List.head?_eq_some_iff.mp h
  have hthrough : throughLast '/' u.path = '/' :: throughLast '/' t := by
    rw [ht]
    exact throughLast_append_cons '/' [] t
  unfold ofUri
  split
  · rw [hthrough]
    rfl
  · exact h

/-- A rooted path stays rooted when its parameters are taken off and put back. -/
theorem isRooted_flatten_path {u : Uri} (h : IsRooted u.path) :
    IsRooted (ofUri u).flatten.path := by
  rcases h with h | h
  · have hnot : ';' ∉ afterLast '/' u.path := by
      rw [h]
      exact List.not_mem_nil
    rw [ofUri_of_not_mem hnot]
    exact Or.inl (by rw [flatten, marked_nil, List.append_nil, h])
  · exact Or.inr (List.mem_head?_append_of_mem_head? (head?_ofUri_path h))

/-- The scheme decides about parameters only, and only where there is a semicolon. -/
theorem ofUri_withScheme {u : Uri} {scheme : Text}
    (h : Scheme.isParametric scheme = Scheme.isParametric u.scheme ∨
      ';' ∉ afterLast '/' u.path) :
    ofUri { u with scheme := scheme } = { ofUri u with scheme := scheme } := by
  rcases h with h | h
  · simp only [ofUri, h]
    split <;> rfl
  · rw [ofUri_of_not_mem h, ofUri_of_not_mem (u := { u with scheme := scheme }) h]

end ParamUri

/-- A reference that names no other scheme takes the scheme of its base. -/
theorem Reference.inheritScheme_eq {base r : Uri} (h : r.scheme = [] ∨ r.scheme = base.scheme) :
    inheritScheme base r = { r with scheme := base.scheme } := by
  unfold inheritScheme
  split
  · rfl
  · rename_i hn
    rw [← h.resolve_left hn]

/-- The scheme of a target is that of the base and the reference, and nothing else depends
on it. -/
theorem Reference.target_withScheme (base r : ParamUri) (scheme : Text) :
    target { base with scheme := scheme } { r with scheme := scheme } =
      { target base r with scheme := scheme } := by
  unfold target
  split
  · rfl
  · split <;> rfl

namespace Uri

/-- The URI that a reference stands for when it names an authority, but no scheme. Its path
is kept as it is, dots included. -/
def networkTarget (base r : Uri) : Uri :=
  { (base.localParts r).flatten with scheme := base.scheme }

@[simp] theorem networkTarget_authority (base r : Uri) :
    (base.networkTarget r).authority = r.authority := localParts_authority base r

@[simp] theorem networkTarget_query (base r : Uri) : (base.networkTarget r).query = r.query :=
  localParts_query base r

@[simp] theorem networkTarget_fragment (base r : Uri) :
    (base.networkTarget r).fragment = r.fragment := localParts_fragment base r

/-- The target of a reference with an authority is hosted. -/
theorem Hosted.networkTarget {base r : Uri} (h : base.Hosted) (hr : r.Hosted) :
    (base.networkTarget r).Hosted where
  toIsOrigin := by
    rw [networkTarget_authority]
    exact { hr.toIsOrigin with scheme_isRead := h.scheme_isRead }
  path_isRooted := ParamUri.isRooted_flatten_path
    (u := { r with scheme := Scheme.forReferences base.scheme }) hr.path_isRooted

/-- The target of a clean reference with an authority is clean. -/
theorem Clean.networkTarget {r : Uri} (hr : r.Clean) (base : Uri) :
    (base.networkTarget r).Clean where
  of_mem_path c hc := by
    rcases ParamUri.mem_flatten_path (u := { r with scheme := Scheme.forReferences base.scheme }) hc
      with rfl | hc
    · decide
    · exact hr.of_mem_path c hc
  of_mem_query c hc := by
    rw [networkTarget_query] at hc
    exact hr.of_mem_query c hc
  of_mem_fragment c hc := by
    rw [networkTarget_fragment] at hc
    exact hr.of_mem_fragment c hc

section

variable {u r : Uri} (h : u.IsBase) {reference : Text}
include h

/-- A faulty reference is refused for its own fault. -/
theorem IsBase.resolve_of_error {fault : AuthorityFault} (hr : split reference = .error fault) :
    u.resolve reference = .error fault := by
  unfold resolve
  split
  · rw [h.join_render (ne_nil_of_split_eq_error hr), hr]
    rfl
  · rw [hr]
    rfl

variable (hr : split reference = .ok r) (ha : r.authority ≠ [])
include hr ha

/-- A reference with an authority is joined to a base whose scheme has relative references,
and read again, if it names no other scheme. -/
theorem IsBase.split_join_render_of_authority (hs : r.scheme = [] ∨ r.scheme = u.scheme)
    (hrel : Scheme.isRelative u.scheme = true) :
    (do split (← join u.render reference)) = .ok (u.networkTarget r) := by
  have hi := inheritScheme_eq hs
  have hparts : .ofUri { r with scheme := u.scheme } = u.localParts r := by
    rw [localParts, Scheme.forReferences_of_isRelative hrel]
  have htarget : target ⟨u, []⟩ (u.localParts r) = u.localParts r :=
    if_pos (by rwa [localParts_authority])
  have hflatten : (u.localParts r).flatten = u.networkTarget r := by
    have hscheme := localParts_scheme u r
    rw [Scheme.forReferences_of_isRelative hrel] at hscheme
    rw [networkTarget, ← hscheme]
    rfl
  have hhosted := h.toHosted.networkTarget (hosted_of_split hr ha)
  have hclean := (clean_of_split hr).networkTarget u
  rw [h.join_render (ne_nil_of_split hr ha), hr]
  simp only [Except.map, hi, hrel, and_self, ite_true, bind, Except.bind, hparts, htarget,
    ParamUri.render, hflatten]
  rw [hhosted.split_render, hclean.reread_eq]

/-- A reference with an authority leads to its own target, whatever the base is. -/
theorem IsBase.resolve_of_authority (hs : r.scheme = []) :
    u.resolve reference = .ok (u.networkTarget r) := by
  by_cases hrel : Scheme.isRelative u.scheme = true
  · rw [resolve, if_pos hrel]
    exact h.split_join_render_of_authority hr ha (Or.inl hs) hrel
  · have hresolve :=
      h.http.split_join_render_of_authority hr ha (Or.inl hs) Scheme.isRelative_http
    rw [resolve_of_not_isRelative hrel hr hs, resolve, if_pos Scheme.isRelative_http, hresolve]
    simp only [Except.map, networkTarget, localParts, Scheme.forReferences_of_not_isRelative hrel,
      Scheme.forReferences_of_isRelative Scheme.isRelative_http]

end

/-! ## Targets under another scheme -/

section

variable {u r : Uri} {scheme : Text}
  (hr : Scheme.isParametric (Scheme.forReferences scheme) =
      Scheme.isParametric (Scheme.forReferences u.scheme) ∨ ';' ∉ afterLast '/' r.path)
include hr

/-- Under another scheme a URI takes part with the same path and parameters, if these schemes
agree about parameters or there are none. -/
theorem localParts_withScheme :
    localParts { u with scheme := scheme } r =
      { u.localParts r with scheme := Scheme.forReferences scheme } :=
  ParamUri.ofUri_withScheme (u := { r with scheme := Scheme.forReferences u.scheme }) hr

/-- A reference with an authority has the same target under another scheme, up to the scheme. -/
theorem networkTarget_withScheme :
    networkTarget { u with scheme := scheme } r = { u.networkTarget r with scheme := scheme } := by
  simp only [networkTarget, localParts_withScheme hr]
  rfl

/-- A local reference has the same target under another scheme, up to the scheme. -/
theorem localTarget_withScheme (hu : ';' ∉ afterLast '/' u.path) :
    localTarget { u with scheme := scheme } r = { u.localTarget r with scheme := scheme } := by
  have hbase : localParts { u with scheme := scheme } { u with scheme := scheme } =
      { u.localParts u with scheme := Scheme.forReferences scheme } :=
    localParts_withScheme (u := u) (r := u) (Or.inr hu)
  simp only [localTarget, hbase, localParts_withScheme hr, target_withScheme]
  rfl

end

/-- A reference without a scheme is resolved alike under another scheme, up to the scheme,
if these schemes agree about parameters or the reference has none. -/
theorem IsBase.resolve_withScheme {u : Uri} {scheme : Text} (h : u.IsBase)
    (hother : IsBase { u with scheme := scheme }) {reference : Text}
    (hscheme : ∀ r, split reference = .ok r → r.scheme = [])
    (hparams : Scheme.isParametric (Scheme.forReferences scheme) =
        Scheme.isParametric (Scheme.forReferences u.scheme) ∨
      ∀ r, split reference = .ok r → ';' ∉ afterLast '/' r.path) :
    resolve { u with scheme := scheme } reference =
      (u.resolve reference).map fun v => { v with scheme := scheme } := by
  cases hr : split reference with
  | error fault =>
    rw [h.resolve_of_error hr, hother.resolve_of_error hr]
    rfl
  | ok r =>
    have hs : r.scheme = [] := hscheme r hr
    have hp := hparams.imp_right fun hp => hp r hr
    by_cases ha : r.authority = []
    · by_cases hne : reference = []
      · rw [hne, h.toHosted.resolve_nil, hother.toHosted.resolve_nil]
        rfl
      · have hlocal : IsLocal reference r := ⟨hr, hs, ha⟩
        rw [h.toHosted.resolve_of_isLocal hlocal hne, hother.toHosted.resolve_of_isLocal hlocal hne,
          h.toClean.reread_eq, hother.toClean.reread_eq, localTarget_withScheme hp h.not_mem]
        rfl
    · rw [h.resolve_of_authority hr ha hs, hother.resolve_of_authority hr ha hs,
        networkTarget_withScheme hp]
      rfl

end Uri

/-- A reference without a scheme of its own is resolved at a mount as at the mount with the
same authority and the same path under the scheme `http`, with the scheme of the mount put in
its place, and it fails alike. Where paths carry no parameters under the scheme of the mount,
the reference must not have any either. -/
theorem exists_resolve_eq_map_http {source : Source} (hsource : source.IsWritten) {u : Uri}
    (hu : readUri baseArgument (some source) = .ok u) {m : Mount}
    (hm : Mount.ofSource (some source) = .ok m) {reference : Text}
    (hscheme : ∀ r, Uri.split reference = .ok r → r.scheme = [])
    (hparams : m.scheme ∈ Scheme.paramless →
      ∀ r, Uri.split reference = .ok r → ';' ∉ afterLast '/' r.path) :
    ∃ n, Mount.ofSource (some (.split ⟨Scheme.http, u.authority, u.path, [], []⟩)) = .ok n ∧
      m.resolve reference = (n.resolve reference).map fun v => { v with scheme := m.scheme } := by
  obtain ⟨w, hw, hmountable, hbase⟩ := Mount.ofSource_eq_ok_iff.mp hm
  obtain rfl : w = u := Except.ok.inj (hw.symm.trans (readUri_eq_ok_iff.mp hu))
  have hmBase := Mount.isBase hsource hm
  have hhttp : Uri.IsMountable ⟨Scheme.http, w.authority, w.path, [], []⟩ :=
    { hmountable with scheme_ne_nil := List.cons_ne_nil _ _ }
  obtain ⟨n, hn, hnbase⟩ := Mount.exists_ofSource_split hhttp
  have hlent : n.base = { m.base with scheme := Scheme.http } := by
    rw [hnbase, hbase]
    rfl
  have hback : { n.base with scheme := m.scheme } = m.base := by
    rw [hlent]
    rfl
  have hagree : Scheme.isParametric (Scheme.forReferences m.scheme) =
      Scheme.isParametric (Scheme.forReferences n.base.scheme) ∨
      ∀ r, Uri.split reference = .ok r → ';' ∉ afterLast '/' r.path := by
    by_cases hp : m.scheme ∈ Scheme.paramless
    · exact Or.inr (hparams hp)
    · rw [hlent, Scheme.isParametric_forReferences hp]
      exact Or.inl rfl
  refine ⟨n, hn, ?_⟩
  have hnBase : n.base.IsBase := hlent ▸ hmBase.http
  have hresolve := hnBase.resolve_withScheme (hback ▸ hmBase) hscheme hagree
  rwa [hback] at hresolve

/-- A reference with an authority and a semicolon inside its path, under a scheme without
parameters. -/
theorem exists_resolve_eq_map_http_of_ws :
    ∃ u m, readUri baseArgument (some (.text " Ws://u@H:1/a;b/?q".toList)) = .ok u ∧
      Mount.ofSource (some (.text " Ws://u@H:1/a;b/?q".toList)) = .ok m ∧
      m.scheme ∈ Scheme.paramless ∧
      ∃ n, Mount.ofSource (some (.split ⟨Scheme.http, u.authority, u.path, [], []⟩)) = .ok n ∧
        m.resolve "//X/b;c/../d?e".toList =
          (n.resolve "//X/b;c/../d?e".toList).map fun v => { v with scheme := m.scheme } := by
  let u : Uri := ⟨"ws".toList, "u@H:1".toList, "/a;b/".toList, "q".toList, []⟩
  let m : Mount := ⟨"ws".toList, "u@H:1".toList, "/a;b/".toList, by decide, by rfl, by rfl, by rfl⟩
  have hu : readUri baseArgument (some (.text " Ws://u@H:1/a;b/?q".toList)) = .ok u := by rfl
  have hm : Mount.ofSource (some (.text " Ws://u@H:1/a;b/?q".toList)) = .ok m := by rfl
  have hread : Uri.split "//X/b;c/../d?e".toList =
      .ok ⟨[], "X".toList, "/b;c/../d".toList, "e".toList, []⟩ := by rfl
  refine ⟨u, m, hu, hm, by decide, exists_resolve_eq_map_http (Source.isWritten_text _) hu hm ?_ ?_⟩
  · intro r hr
    obtain rfl := Except.ok.inj (hread.symm.trans hr)
    rfl
  · intro _ r hr
    obtain rfl := Except.ok.inj (hread.symm.trans hr)
    decide

end UriMount

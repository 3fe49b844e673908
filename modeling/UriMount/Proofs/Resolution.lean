import UriMount.Reference
import UriMount.Proofs.Dots

/-!
# Resolving local references

A local reference names neither a scheme nor an authority. Resolved against a
hosted URI it gives a URI of the same origin, without a failure, although the
base and the result are written and read again on the way and a scheme without
relative references is lent another one meanwhile.
-/

namespace UriMount

open Text

/-- A written reference is read, and names neither a scheme nor an authority. -/
structure IsLocal (reference : Text) (r : Uri) : Prop where
  /-- The reference is read. -/
  split : Uri.split reference = .ok r
  /-- It names no scheme. -/
  scheme : r.scheme = []
  /-- It names no authority. -/
  authority : r.authority = []

namespace IsLocal

variable {reference : Text} {r : Uri} (h : IsLocal reference r)
include h

/-- A local reference is what its characters are cut into. -/
theorem eq_cut : Uri.cut (Uri.significant reference) = r := (Uri.split_eq_ok_iff.mp h.split).1

/-- A local reference opens with no scheme. -/
theorem not_opens : Scheme.opens (Uri.significant reference) = false :=
  Scheme.opens_of_cut_fst_eq_nil ((congrArg Uri.scheme h.eq_cut).trans h.scheme)

/-- A local reference shows no authority. -/
theorem authority_cut_eq_nil : (Authority.cut (Uri.significant reference)).1 = [] := by
  have ha := (congrArg Uri.authority h.eq_cut).trans h.authority
  rwa [Uri.cut, Scheme.cut_of_not_opens h.not_opens] at ha

end IsLocal

namespace Scheme

/-- The scheme under which references against a scheme are resolved. -/
def forReferences (scheme : Text) : Text := if isRelative scheme then scheme else http

theorem forReferences_of_isRelative {scheme : Text} (h : isRelative scheme = true) :
    forReferences scheme = scheme := by simp only [forReferences, h, ite_true]

theorem forReferences_of_not_isRelative {scheme : Text} (h : ¬isRelative scheme = true) :
    forReferences scheme = http := by simp only [forReferences, h, Bool.false_eq_true, ite_false]

/-- The stand-in scheme is as it is read. -/
theorem isRead_http : IsRead http := ⟨by decide, by decide⟩

end Scheme

/-- An authority is read behind the stand-in scheme as behind any other. -/
theorem IsOrigin.http {scheme authority : Text} (h : IsOrigin scheme authority) :
    IsOrigin Scheme.http authority :=
  { h with scheme_isRead := Or.inr Scheme.isRead_http }

/-- A hosted URI may be lent the stand-in scheme. -/
theorem Uri.Hosted.http {u : Uri} (h : u.Hosted) : Hosted { u with scheme := Scheme.http } :=
  { h with toIsOrigin := h.toIsOrigin.http }

/-- What follows a path that is there does not matter to the slash in front of it. -/
theorem Uri.rooted_append_of_ne_nil {path : Text} (h : path ≠ []) (t : Text) :
    Uri.rooted (path ++ t) = Uri.rooted path ++ t := by
  cases path with
  | nil => exact absurd rfl h
  | cons c path =>
    simp only [Uri.rooted, List.cons_append, List.cons_ne_nil, List.head?_cons, false_or]
    split <;> rfl

/-! ## Parameters -/

namespace ParamUri

/-- Without a semicolon in the last segment there is nothing to take off. -/
theorem ofUri_of_not_mem {u : Uri} (h : ';' ∉ afterLast '/' u.path) :
    ofUri u = { u with params := [] } := by
  unfold ofUri
  split
  · simp only [before_of_not_mem h, after_of_not_mem h, throughLast_append_afterLast]
  · rfl

@[simp] theorem ofUri_scheme (u : Uri) : (ofUri u).scheme = u.scheme := by
  unfold ofUri
  split <;> rfl

@[simp] theorem ofUri_authority (u : Uri) : (ofUri u).authority = u.authority := by
  unfold ofUri
  split <;> rfl

@[simp] theorem ofUri_query (u : Uri) : (ofUri u).query = u.query := by
  unfold ofUri
  split <;> rfl

@[simp] theorem ofUri_fragment (u : Uri) : (ofUri u).fragment = u.fragment := by
  unfold ofUri
  split <;> rfl

theorem mem_path_of_mem_ofUri_path {u : Uri} {c : Char} (h : c ∈ (ofUri u).path) :
    c ∈ u.path := by
  unfold ofUri at h
  split at h
  · rcases List.mem_append.mp h with h | h
    · exact mem_of_mem_throughLast h
    · exact mem_of_mem_afterLast (mem_of_mem_before h)
  · exact h

theorem mem_path_of_mem_ofUri_params {u : Uri} {c : Char} (h : c ∈ (ofUri u).params) :
    c ∈ u.path := by
  unfold ofUri at h
  split at h
  · exact mem_of_mem_afterLast (mem_of_mem_after h)
  · cases h

/-- Taking parameters off a path leaves a first part of it. -/
theorem ofUri_path_isPrefix (u : Uri) : (ofUri u).path <+: u.path := by
  unfold ofUri
  split
  · conv => rhs; rw [← throughLast_append_afterLast '/' u.path]
    exact (List.prefix_append_right_inj _).mpr (before_isPrefix ';' _)
  · exact List.prefix_rfl

/-- Taking parameters off a path behind a directory leaves the directory. -/
theorem ofUri_append {directory : Text} (h : directory.getLast? = some '/') (u : Uri) :
    ofUri { u with path := directory ++ u.path } =
      { ofUri u with path := directory ++ (ofUri u).path } := by
  obtain ⟨p, rfl⟩ := List.getLast?_eq_some_iff.mp h
  simp only [ofUri, List.append_assoc, List.singleton_append, throughLast_append_cons,
    afterLast_append_cons]
  split
  · simp only [List.cons_append]
  · rfl

end ParamUri

/-! ## The target of a local reference -/

namespace Uri

open Reference

/-- A URI as it takes part in resolving against a base: under the base's scheme or the
stand-in for it, and with its parameters taken off. -/
def localParts (base u : Uri) : ParamUri :=
  .ofUri { u with scheme := Scheme.forReferences base.scheme }

@[simp] theorem localParts_scheme (base u : Uri) :
    (base.localParts u).scheme = Scheme.forReferences base.scheme := ParamUri.ofUri_scheme _

@[simp] theorem localParts_authority (base u : Uri) :
    (base.localParts u).authority = u.authority := ParamUri.ofUri_authority _

@[simp] theorem localParts_query (base u : Uri) : (base.localParts u).query = u.query :=
  ParamUri.ofUri_query _

@[simp] theorem localParts_fragment (base u : Uri) : (base.localParts u).fragment = u.fragment :=
  ParamUri.ofUri_fragment _

theorem mem_path_of_mem_localParts_path {base u : Uri} {c : Char}
    (h : c ∈ (base.localParts u).path) : c ∈ u.path :=
  ParamUri.mem_path_of_mem_ofUri_path
    (u := { u with scheme := Scheme.forReferences base.scheme }) h

theorem mem_path_of_mem_localParts_params {base u : Uri} {c : Char}
    (h : c ∈ (base.localParts u).params) : c ∈ u.path :=
  ParamUri.mem_path_of_mem_ofUri_params
    (u := { u with scheme := Scheme.forReferences base.scheme }) h

theorem localParts_path_isPrefix (base u : Uri) : (base.localParts u).path <+: u.path :=
  ParamUri.ofUri_path_isPrefix { u with scheme := Scheme.forReferences base.scheme }

/-- The URI that a local reference stands for against a hosted URI. -/
def localTarget (base r : Uri) : Uri :=
  let t := target (base.localParts base) (base.localParts r)
  { base with path := rooted t.flatten.path, query := t.query, fragment := t.fragment }

/-- Without an authority in the reference, the authority of the base is kept. -/
theorem target_of_authority_eq_nil {base r : ParamUri} (ha : r.authority = []) :
    target base r =
      if r.path = [] ∧ r.params = [] then
        { base with
          query := if r.query = [] then base.query else r.query
          fragment := r.fragment }
      else { r with authority := base.authority, path := mergedPath base.path r.path } :=
  if_neg (not_not_intro ha)

/-- The target of a local reference, with the parts that base and reference take in it. -/
theorem target_localParts {base r : Uri} (ha : r.authority = []) :
    target (base.localParts base) (base.localParts r) =
      if (base.localParts r).path = [] ∧ (base.localParts r).params = [] then
        { base.localParts base with
          query := if r.query = [] then base.query else r.query
          fragment := r.fragment }
      else
        { base.localParts r with
          authority := base.authority
          path := mergedPath (base.localParts base).path (base.localParts r).path } := by
  have hr : (base.localParts r).authority = [] := (localParts_authority base r).trans ha
  simp only [target_of_authority_eq_nil hr, localParts_query, localParts_fragment,
    localParts_authority]

/-- The characters of a target's path come from both paths. -/
theorem mem_path_target {base r : Uri} (ha : r.authority = []) {c : Char}
    (h : c ∈ (target (base.localParts base) (base.localParts r)).flatten.path) :
    c = '/' ∨ c = ';' ∨ c ∈ base.path ∨ c ∈ r.path := by
  have hparams {u : Uri} (hm : c ∈ marked ';' (base.localParts u).params) :
      c = ';' ∨ c ∈ u.path := (mem_marked hm).imp_right mem_path_of_mem_localParts_params
  rw [target_localParts ha, ParamUri.flatten] at h
  split at h
  · rcases List.mem_append.mp h with h | h
    · exact Or.inr (Or.inr (Or.inl (mem_path_of_mem_localParts_path h)))
    · exact Or.inr ((hparams h).imp_right Or.inl)
  · rcases List.mem_append.mp h with h | h
    · rcases mem_mergedPath h with h | h | h
      · exact Or.inl h
      · exact Or.inr (Or.inr (Or.inl (mem_path_of_mem_localParts_path h)))
      · exact Or.inr (Or.inr (Or.inr (mem_path_of_mem_localParts_path h)))
    · exact Or.inr ((hparams h).imp_right Or.inr)

/-- A target takes its query from the base or the reference. -/
theorem query_localTarget (base : Uri) {r : Uri} (ha : r.authority = []) :
    (base.localTarget r).query = base.query ∨ (base.localTarget r).query = r.query := by
  simp only [localTarget, target_localParts ha]
  split
  · split
    · exact Or.inl rfl
    · exact Or.inr rfl
  · exact Or.inr (localParts_query base r)

/-- A target takes its fragment from the reference. -/
theorem fragment_localTarget {base r : Uri} (ha : r.authority = []) :
    (base.localTarget r).fragment = r.fragment := by
  simp only [localTarget, target_localParts ha]
  split
  · rfl
  · exact localParts_fragment base r

/-- A target has the authority of the base, under the scheme in which it was resolved. -/
theorem flatten_target {base r : Uri} (ha : r.authority = []) :
    (target (base.localParts base) (base.localParts r)).flatten =
      { base.localTarget r with
        scheme := Scheme.forReferences base.scheme
        path := (target (base.localParts base) (base.localParts r)).flatten.path } := by
  simp only [localTarget, target_localParts ha, ParamUri.flatten]
  split <;> simp only [localParts_scheme, localParts_authority]

/-- A URI with an authority is written with a rooted path. -/
theorem render_rooted {u : Uri} (ha : u.authority ≠ []) :
    { u with path := rooted u.path }.render = u.render := by
  have hr : rooted (rooted u.path) = rooted u.path := rooted_of_isRooted (isRooted_rooted _)
  rw [render_of_authority ha, render_of_authority (u := { u with path := rooted u.path }) ha, hr]
  rfl

/-- The target of a local reference is hosted where the base is. -/
theorem Hosted.localTarget {base : Uri} (h : base.Hosted) (r : Uri) :
    (base.localTarget r).Hosted :=
  { toIsOrigin := h.toIsOrigin, path_isRooted := isRooted_rooted _ }

/-- The target of a clean reference against a clean base is clean. -/
theorem Clean.localTarget {base r : Uri} (hb : base.Clean) (hr : r.Clean)
    (ha : r.authority = []) : (base.localTarget r).Clean where
  of_mem_path c hc := by
    rcases mem_rooted hc with rfl | hc
    · decide
    · rcases mem_path_target ha hc with rfl | rfl | hc | hc
      · decide
      · decide
      · exact hb.of_mem_path c hc
      · exact hr.of_mem_path c hc
  of_mem_query c hc := by
    rcases query_localTarget base ha with hq | hq
    · exact hb.of_mem_query c (hq ▸ hc)
    · exact hr.of_mem_query c (hq ▸ hc)
  of_mem_fragment c hc := by
    rw [fragment_localTarget ha] at hc
    exact hr.of_mem_fragment c hc

/-- A written target of a local reference is read back with a rooted path. -/
theorem split_render_target {base r : Uri} (hbase : base.Hosted) (hb : base.Clean)
    (hrel : Scheme.isRelative base.scheme = true) (hr : r.Clean) (ha : r.authority = []) :
    split (target (base.localParts base) (base.localParts r)).render =
      .ok (base.localTarget r) := by
  have hrender : (base.localTarget r).render =
      (target (base.localParts base) (base.localParts r)).render := by
    rw [ParamUri.render, flatten_target ha, Scheme.forReferences_of_isRelative hrel]
    exact render_rooted (u := { base.localTarget r with
      path := (target (base.localParts base) (base.localParts r)).flatten.path })
      hbase.authority_ne_nil
  rw [← hrender, (hbase.localTarget r).split_render, (hb.localTarget hr ha).reread_eq]

/-- A written URI is not empty when it names an authority. -/
theorem Hosted.render_ne_nil {u : Uri} (h : u.Hosted) : u.render ≠ [] := by
  obtain ⟨c, t, ht, _⟩ := exists_cons_of_isOrigin h.toIsOrigin
  rw [h.render_eq, ht]
  exact List.cons_ne_nil _ _

/-- A local reference is joined to a base whose scheme has relative references. -/
theorem Hosted.join_render {u r : Uri} (h : u.Hosted) (hrel : Scheme.isRelative u.scheme = true)
    {reference : Text} (hr : IsLocal reference r) (hne : reference ≠ []) :
    join u.render reference =
      .ok (target (u.reread.localParts u.reread) (u.reread.localParts r)).render := by
  have hs : u.reread.scheme = u.scheme := rfl
  have hi : inheritScheme u.reread r = { r with scheme := u.scheme } := if_pos hr.scheme
  have hu : u.reread.localParts u.reread = .ofUri u.reread := by
    simp only [localParts, hs, Scheme.forReferences_of_isRelative hrel]
    rfl
  simp only [join, h.render_ne_nil, hne, ite_false, h.split_render, hr.split, hi, hs, hrel,
    and_self, ite_true, bind, Except.bind, pure, Except.pure, hu]
  simp only [localParts, hs, Scheme.forReferences_of_isRelative hrel]

/-- Joining a local reference and reading the result gives its target. -/
theorem Hosted.split_join_render {u r : Uri} (h : u.Hosted)
    (hrel : Scheme.isRelative u.scheme = true) {reference : Text} (hr : IsLocal reference r)
    (hne : reference ≠ []) :
    (do split (← join u.render reference)) = .ok (u.reread.localTarget r) := by
  rw [h.join_render hrel hr hne]
  exact split_render_target h.reread (clean_reread u) hrel (clean_of_split hr.split) hr.authority

/-- The stand-in scheme is lent for the time of joining only. -/
theorem localTarget_http {u r : Uri} (h : ¬Scheme.isRelative u.scheme = true) :
    { localTarget { u with scheme := Scheme.http }.reread r with scheme := u.scheme } =
      u.reread.localTarget r := by
  have hs : { u with scheme := Scheme.http }.reread = { u.reread with scheme := Scheme.http } := rfl
  have hu : u.reread.scheme = u.scheme := rfl
  simp only [hs, hu, localTarget, localParts, Scheme.forReferences_of_not_isRelative h,
    Scheme.forReferences_of_isRelative Scheme.isRelative_http]

/-- Under a scheme without relative references, a reference without a scheme is resolved
under the stand-in. -/
theorem resolve_of_not_isRelative {u r : Uri} (hrel : ¬Scheme.isRelative u.scheme = true)
    {reference : Text} (hr : split reference = .ok r) (hs : r.scheme = []) :
    u.resolve reference = (resolve { u with scheme := Scheme.http } reference).map
      fun v => { v with scheme := u.scheme } := by
  simp only [resolve, hrel, Bool.false_eq_true, ite_false, Scheme.isRelative_http, ite_true, hr, hs,
    bind, Except.bind, pure, Except.pure, ne_eq, not_true_eq_false]
  cases join (render { u with scheme := Scheme.http }) reference with
  | error fault => rfl
  | ok joined =>
    cases hsplit : split joined <;> simp only [hsplit] <;> rfl

/-- Resolving a local reference gives its target, whatever the scheme of the base. -/
theorem Hosted.resolve_of_isLocal {u r : Uri} (h : u.Hosted) {reference : Text}
    (hr : IsLocal reference r) (hne : reference ≠ []) :
    u.resolve reference = .ok (u.reread.localTarget r) := by
  by_cases hrel : Scheme.isRelative u.scheme = true
  · rw [resolve, if_pos hrel]
    exact h.split_join_render hrel hr hne
  · have hresolve := h.http.split_join_render Scheme.isRelative_http hr hne
    rw [resolve_of_not_isRelative hrel hr.split hr.scheme, resolve, if_pos Scheme.isRelative_http,
      hresolve]
    exact congrArg Except.ok (localTarget_http hrel)

/-- The empty reference stands for the base itself. -/
theorem Hosted.resolve_nil {u : Uri} (h : u.Hosted) : u.resolve [] = .ok u.reread := by
  have hrelative {v : Uri} (hv : v.Hosted) (hrel : Scheme.isRelative v.scheme = true) :
      v.resolve [] = .ok v.reread := by
    simp only [resolve, hrel, ite_true, join, hv.render_ne_nil, ite_false, bind, Except.bind]
    exact hv.split_render
  by_cases hrel : Scheme.isRelative u.scheme = true
  · exact hrelative h hrel
  · rw [resolve_of_not_isRelative hrel split_nil rfl, hrelative h.http Scheme.isRelative_http]
    rfl

/-- A local reference is always resolved, and never leaves the origin. -/
theorem Hosted.exists_resolve {u r : Uri} (h : u.Hosted) {reference : Text}
    (hr : IsLocal reference r) : ∃ v, u.resolve reference = .ok v ∧ v.scheme = u.scheme ∧
      v.authority = u.authority ∧ IsRooted v.path := by
  by_cases hn : reference = []
  · subst hn
    exact ⟨_, h.resolve_nil, rfl, rfl, h.reread.path_isRooted⟩
  · exact ⟨_, h.resolve_of_isLocal hr hn, rfl, rfl, isRooted_rooted _⟩

/-! ## Bases without parameters -/

/-- Without a semicolon in the last segment there are no parameters. -/
theorem localParts_of_not_mem (base : Uri) {u : Uri} (h : ';' ∉ afterLast '/' u.path) :
    base.localParts u = { u with scheme := Scheme.forReferences base.scheme, params := [] } :=
  ParamUri.ofUri_of_not_mem (u := { u with scheme := Scheme.forReferences base.scheme }) h

section

variable {base r : Uri} (hb : ';' ∉ afterLast '/' base.path) (ha : r.authority = [])
include hb ha

/-- Without a path a reference leaves the path of the base as it is. -/
theorem localTarget_of_pathless (hroot : IsRooted base.path)
    (hp : (base.localParts r).path = [] ∧ (base.localParts r).params = []) :
    base.localTarget r =
      { base with
        query := if r.query = [] then base.query else r.query
        fragment := r.fragment } := by
  simp only [localTarget, target_localParts ha, hp, and_self, ite_true]
  simp only [localParts_of_not_mem base hb, ParamUri.flatten, marked_nil, List.append_nil,
    rooted_of_isRooted hroot]

/-- At a base without a query a reference without a path has the query that it names. -/
theorem localTarget_of_pathless_of_query (hroot : IsRooted base.path) (hq : base.query = [])
    (hp : (base.localParts r).path = [] ∧ (base.localParts r).params = []) :
    base.localTarget r = { base with query := r.query, fragment := r.fragment } := by
  rw [localTarget_of_pathless hb ha hroot hp, hq]
  split
  · rename_i hr
    rw [hr]
  · rfl

/-- A path of a reference is merged with the path of the base, and its parameters stay. -/
theorem localTarget_of_path
    (hp : ¬((base.localParts r).path = [] ∧ (base.localParts r).params = [])) :
    base.localTarget r =
      { base with
        path := rooted (mergedPath base.path (base.localParts r).path) ++
          marked ';' (base.localParts r).params
        query := r.query
        fragment := r.fragment } := by
  simp only [localTarget, target_localParts ha, hp, ite_false]
  simp only [localParts_of_not_mem base hb, ParamUri.flatten, localParts_query,
    localParts_fragment, rooted_append_of_ne_nil (mergedPath_ne_nil _ _)]

/-- A path without parameters is merged with the path of the base. -/
theorem localTarget_of_not_mem (hne : r.path ≠ []) (hp : ';' ∉ afterLast '/' r.path) :
    base.localTarget r =
      { base with
        path := rooted (mergedPath base.path r.path)
        query := r.query
        fragment := r.fragment } := by
  have hparts := localParts_of_not_mem base hp
  rw [localTarget_of_path hb ha (by rw [hparts]; exact fun h => hne h.1), hparts, marked_nil,
    List.append_nil]

end

end Uri

end UriMount

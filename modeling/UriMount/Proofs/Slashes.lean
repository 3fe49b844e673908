import UriMount.Proofs.Extensions
import UriMount.Proofs.Mounts

/-!
# Slashes at the end of a base

A mount keeps the slashes at the end of its directory, and a base that is written with
more of them has another mount. Nothing but the directory shows the difference: empty
segments are dropped wherever a path is merged, and all else is told from the path of
the mount, which ends without a slash.
-/

namespace UriMount

open Text

/-! ## Slashes behind a directory -/

namespace Reference

/-- Between slashes there are only empty segments. -/
theorem filter_segments_of_forall {t : Text} (h : ∀ c ∈ t, isSlash c = true) :
    (segments t).filter (· != []) = [] := by
  rw [List.filter_eq_nil_iff]
  intro s hs
  cases s with
  | nil => decide
  | cons c s =>
    have hc := h c (mem_of_mem_splitOn hs (List.mem_cons_self ..))
    rw [isSlash, beq_iff_eq] at hc
    exact absurd (hc ▸ List.mem_cons_self ..) (not_mem_of_mem_segments hs)

/-- Below a directory lie the segments in front of its slashes. -/
theorem filter_below_append {first tail : Text} (h : ∀ c ∈ tail, isSlash c = true) :
    (below (first ++ '/' :: tail)).filter (· != []) =
      (segments first).tail.filter (· != []) := by
  have htail : ((segments tail).dropLast).filter (· != []) = [] := by
    have hd := (List.dropLast_sublist (segments tail)).filter (· != [])
    rw [filter_segments_of_forall h] at hd
    exact List.sublist_nil.mp hd
  rw [below, segments_append_slash, List.dropLast_append_of_ne_nil (segments_ne_nil tail),
    List.tail_append_of_ne_nil (segments_ne_nil first), List.filter_append, htail,
    List.append_nil]

/-- Paths lead to the same places from rooted base paths with the same segments below. -/
theorem mergedPath_congr {base other : Text} (hb : IsRooted base) (ho : IsRooted other)
    (h : (below other).filter (· != []) = (below base).filter (· != [])) (path : Text) :
    mergedPath other path = mergedPath base path := by
  by_cases hp : path.head? = some '/'
  · exact mergedPath_eq_of_head? hp other base
  · simp only [mergedPath, merge_of_relative hb hp, merge_of_relative ho hp, trail,
      List.filter_append, h]

end Reference

/-! ## Mounts at the same place -/

namespace Mount

/-- A directory is the path of its mount with slashes behind it. -/
theorem exists_directory_eq (m : Mount) :
    ∃ tail, m.directory = m.basePath ++ '/' :: tail ∧ ∀ c ∈ tail, isSlash c = true := by
  obtain ⟨tail, ht, hall⟩ := exists_trimEnd_append isSlash m.directory
  cases tail with
  | nil =>
    rw [List.append_nil] at ht
    have hlast : m.basePath.getLast? = some '/' := by
      rw [basePath, ht]
      exact m.directory_getLast?
    exact absurd hlast m.getLast?_basePath
  | cons c tail =>
    obtain ⟨hc, hall⟩ := List.forall_mem_cons.mp hall
    rw [isSlash, beq_iff_eq] at hc
    exact ⟨tail, by rw [← hc]; exact ht.symm, hall⟩

/-- Below the directory of a mount lie the segments of its path. -/
theorem filter_below_directory (m : Mount) :
    (Reference.below m.directory).filter (· != []) =
      (Reference.segments m.basePath).tail.filter (· != []) := by
  obtain ⟨tail, hd, hall⟩ := m.exists_directory_eq
  rw [hd, Reference.filter_below_append hall]

/-- Mounts that differ at most in the slashes at the end of their directories. -/
structure SamePlace (n m : Mount) : Prop where
  /-- The scheme is the same. -/
  scheme_eq : n.scheme = m.scheme
  /-- The authority is the same. -/
  authority_eq : n.authority = m.authority
  /-- The path is the same. -/
  basePath_eq : n.basePath = m.basePath

namespace SamePlace

variable {n m : Mount} (h : n.SamePlace m)
include h

/-- Paths lie at the same place below mounts at the same place. -/
theorem path_eq (extra : Text) : n.path extra = m.path extra := by
  simp only [path, h.basePath_eq]

section

variable (hn : n.base.Hosted) (hm : m.base.Hosted)
include hn hm

/-- Mounts at the same place are written alike. -/
theorem render_eq : n.render = m.render := by
  have ho : n.base.origin = m.base.origin := Uri.origin_congr h.scheme_eq h.authority_eq
  rw [Mount.render_eq hn, Mount.render_eq hm, ho, h.basePath_eq]

/-- Mounts at the same place are read alike. -/
theorem uri_eq : n.uri = m.uri := by
  rw [uri, uri, h.render_eq hn hm]

/-- Paths lead from the base of a mount to where they lead from any other base at the place. -/
theorem leadsLike : n.base.LeadsLike m.base where
  scheme_eq := h.scheme_eq
  authority_eq := h.authority_eq
  mergedPath_eq := Reference.mergedPath_congr hm.path_isRooted hn.path_isRooted (by
    change (Reference.below n.directory).filter _ = (Reference.below m.directory).filter _
    rw [n.filter_below_directory, m.filter_below_directory, h.basePath_eq])

end

end SamePlace

/-- At a URI of the same origin as a mount, with its path up to slashes at the end, there is
a mount at the same place. -/
theorem exists_samePlace {source : Source} {v : Uri} (hv : source.uri = .ok v) {m : Mount}
    (hs : v.scheme = m.scheme) (ha : v.authority = m.authority)
    (hp : trimEnd isSlash v.path = m.basePath) :
    ∃ n, ofSource (some source) = .ok n ∧ n.SamePlace m := by
  have hmountable := m.isMountable_of_origin hs ha
  obtain ⟨n, -, hbase⟩ := exists_ofSource_split hmountable
  refine ⟨n, ofSource_eq_ok_iff.mpr ⟨v, hv, hmountable, hbase⟩, ?_, ?_, ?_⟩
  · exact (congrArg Uri.scheme hbase).trans hs
  · exact (congrArg Uri.authority hbase).trans ha
  · rw [basePath_of_base_eq hbase, hp]

end Mount

/-! ## Bases that are written with more slashes -/

/-- A written base with more slashes behind it has the same scheme and authority, and the
same path up to slashes at its end. -/
theorem Source.exists_uri_append_slashes {written slashes : Text} {u : Uri}
    (hu : (text written).uri = .ok u) (ha : u.authority ≠ [])
    (hlast : ∀ c, written.getLast? = some c → isBlank c = false)
    (hslashes : ∀ c ∈ slashes, isSlash c = true) :
    ∃ v, (text (written ++ slashes)).uri = .ok v ∧ v.scheme = u.scheme ∧
      v.authority = u.authority ∧ trimEnd isSlash v.path = trimEnd isSlash u.path := by
  have hmark : ∀ c ∈ slashes, c = '/' := fun c hc => by
    simpa only [isSlash, beq_iff_eq] using hslashes c hc
  have hkept : trimEnd isBlank slashes = slashes := trimEnd_of_getLast? fun c hc => by
    rw [hmark c (List.mem_of_getLast? hc)]
    decide
  have hfilter : slashes.filter (!Uri.isSkipped ·) = slashes :=
    Uri.filter_isSkipped fun c hc => hmark c hc ▸ rfl
  have hpath : (u.withRest slashes).path = slashes := by
    have hnot {d : Char} (hd : d ≠ '/') : d ∉ slashes := fun hm => hd (hmark d hm)
    rw [u.withRest_of_not_mem (hnot (by decide)) (hnot (by decide))]
  have hrest : Authority.IsRest (trimEnd isBlank slashes) := by
    rw [hkept]
    intro c hc
    rw [hmark c (List.mem_of_head? hc)]
    rfl
  obtain ⟨v, hv, hs, hav, hp⟩ := exists_uri_append hu ha hlast hrest
  refine ⟨v, hv, hs, hav, ?_⟩
  rw [hkept, hfilter, hpath] at hp
  rcases hp with hp | hp
  · rw [hp]
  · rw [hp, trimEnd_append_of_forall hslashes]

/-- A base that does not end with a blank may be written with any number of slashes behind
it. The mount is written alike, has the same path and puts paths at the same places, and a
reference that has a path is resolved alike or fails alike. -/
theorem exists_ofSource_append_slashes {written : Text} {m : Mount}
    (hm : Mount.ofSource (some (.text written)) = .ok m)
    (hlast : ∀ c, written.getLast? = some c → isBlank c = false) (k : Nat) :
    ∃ n, Mount.ofSource (some (.text (written ++ List.replicate k '/'))) = .ok n ∧
      n.render = m.render ∧ n.basePath = m.basePath ∧ n.uri = m.uri ∧
      (∀ extra, n.path extra = m.path extra) ∧
      ∀ reference, Uri.IsPathful reference → n.resolve reference = m.resolve reference := by
  obtain ⟨u, hu, hmountable, hbase⟩ := Mount.ofSource_eq_ok_iff.mp hm
  have ha : u.authority ≠ [] := Authority.ne_nil_of_host?_isSome hmountable.host_isSome
  have hslashes : ∀ c ∈ List.replicate k '/', isSlash c = true := by
    intro c hc
    rw [List.eq_of_mem_replicate hc]
    rfl
  obtain ⟨v, hv, hs, hav, hp⟩ := Source.exists_uri_append_slashes hu ha hlast hslashes
  obtain ⟨n, hn, hsame⟩ := Mount.exists_samePlace hv
    (hs.trans (congrArg Uri.scheme hbase).symm) (hav.trans (congrArg Uri.authority hbase).symm)
    (hp.trans (Mount.basePath_of_base_eq hbase).symm)
  have hmBase := Mount.isBase (Source.isWritten_text _) hm
  have hnBase := Mount.isBase (Source.isWritten_text _) hn
  refine ⟨n, hn, hsame.render_eq hnBase.toHosted hmBase.toHosted, hsame.basePath_eq,
    hsame.uri_eq hnBase.toHosted hmBase.toHosted, hsame.path_eq, fun reference hr => ?_⟩
  exact (hsame.leadsLike hnBase.toHosted hmBase.toHosted).resolve_eq hmBase hnBase hr

/-- Three slashes behind a path with parameters, and a reference that leaves the root. -/
theorem exists_ofSource_append_slashes_of_params :
    ∃ m n, Mount.ofSource (some (.text " App://u@H:1/a//b;p".toList)) = .ok m ∧
      Mount.ofSource (some (.text " App://u@H:1/a//b;p///".toList)) = .ok n ∧
      m.directory ≠ n.directory ∧ n.render = m.render ∧ n.basePath = m.basePath ∧
      n.uri = m.uri ∧ n.path "x".toList = m.path "x".toList ∧
      Uri.IsPathful "../c//../../..;q?x".toList ∧
      n.resolve "../c//../../..;q?x".toList = m.resolve "../c//../../..;q?x".toList := by
  let m : Mount :=
    ⟨"app".toList, "u@H:1".toList, "/a//b;p/".toList, by decide, by rfl, by rfl, by rfl⟩
  have hm : Mount.ofSource (some (.text " App://u@H:1/a//b;p".toList)) = .ok m := by rfl
  have hlast : ∀ c, " App://u@H:1/a//b;p".toList.getLast? = some c → isBlank c = false := by
    rintro c hc
    cases hc
    decide
  have hr : Uri.IsPathful "../c//../../..;q?x".toList := by
    intro r hr
    have hread : Uri.split "../c//../../..;q?x".toList =
        .ok ⟨[], [], "../c//../../..;q".toList, "x".toList, []⟩ := by rfl
    obtain rfl := Except.ok.inj (hread.symm.trans hr)
    exact ⟨by decide, by decide⟩
  obtain ⟨n, hn, hrender, hpath, huri, hextra, hresolve⟩ :=
    exists_ofSource_append_slashes hm hlast 3
  have hdirectory : m.directory ≠ n.directory := by
    have hn' : Mount.ofSource (some (.text " App://u@H:1/a//b;p///".toList)) =
        .ok ⟨"app".toList, "u@H:1".toList, "/a//b;p///".toList, by decide, by rfl, by rfl,
          by rfl⟩ := by rfl
    obtain rfl := Except.ok.inj (hn'.symm.trans hn)
    decide
  exact ⟨m, n, hm, hn, hdirectory, hrender, hpath, huri, hextra _, hr, hresolve _ hr⟩

end UriMount

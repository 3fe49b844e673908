import UriMount.Mount
import UriMount.Proofs.Joining

/-!
# Mounts at hosted URIs

A URI that names a scheme, a host and no improper port has a mount. Where the URI
is hosted, so is the base of its mount, and the written mount is the origin of the
base followed by the path of the mount.
-/

namespace UriMount

open Text

/-- A URI that a mount can be at. -/
structure Uri.IsMountable (u : Uri) : Prop where
  /-- There is a scheme. -/
  scheme_ne_nil : u.scheme ≠ []
  /-- There is a host. -/
  host_isSome : (Authority.host? u.authority).isSome
  /-- There is no port, or a proper one. -/
  port_isOk : (Authority.port? u.authority).isOk

theorem Uri.isMountable_iff {u : Uri} : u.IsMountable ↔
    u.scheme ≠ [] ∧ (Authority.host? u.authority).isSome ∧ (Authority.port? u.authority).isOk :=
  ⟨fun h => ⟨h.scheme_ne_nil, h.host_isSome, h.port_isOk⟩, fun h => ⟨h.1, h.2.1, h.2.2⟩⟩

namespace Mount

/-- The base that a mount at a URI has. -/
def baseAt (u : Uri) : Uri := ⟨u.scheme, u.authority, asDirectory u.path, [], []⟩

/-- Components that are handed in make a mount exactly when they can have one. -/
theorem ofSource_split_iff {u : Uri} {m : Mount} :
    ofSource (some (.split u)) = .ok m ↔ u.IsMountable ∧ m.base = baseAt u := by
  change ofUri (.split u) u = .ok m ↔ _
  rw [ofUri_eq_ok_iff]
  exact ⟨fun ⟨hp, hs, hh, hb⟩ => ⟨⟨hs, hh, hp⟩, hb⟩, fun ⟨h, hb⟩ =>
    ⟨h.port_isOk, h.scheme_ne_nil, h.host_isSome, hb⟩⟩

/-- A source that is read makes the mount at its components, or is refused as they are. -/
theorem ofSource_of_uri {source : Source} {u : Uri} (hu : source.uri = .ok u) :
    ofSource (some source) = ofUri source u := by
  simp only [ofSource, Error.require, Error.ofSplit, bind, Except.bind, hu]

/-- A source makes a mount exactly when it is read and its components can have one. -/
theorem ofSource_eq_ok_iff {source : Source} {m : Mount} :
    ofSource (some source) = .ok m ↔
      ∃ u, source.uri = .ok u ∧ u.IsMountable ∧ m.base = baseAt u := by
  cases hu : source.uri with
  | error fault => simp [ofSource, Error.require, Error.ofSplit, bind, Except.bind, hu]
  | ok u =>
    rw [ofSource_of_uri hu, ofUri_eq_ok_iff]
    constructor
    · rintro ⟨hp, hs, hh, hb⟩
      exact ⟨u, rfl, ⟨hs, hh, hp⟩, hb⟩
    · rintro ⟨v, hv, h, hb⟩
      cases hv
      exact ⟨h.port_isOk, h.scheme_ne_nil, h.host_isSome, hb⟩

/-- A URI that can have a mount has one. -/
theorem exists_ofSource_split {u : Uri} (h : u.IsMountable) :
    ∃ m, ofSource (some (.split u)) = .ok m ∧ m.base = baseAt u := by
  let m : Mount := ⟨u.scheme, u.authority, asDirectory u.path, h.scheme_ne_nil, h.host_isSome,
    h.port_isOk, getLast?_asDirectory u.path⟩
  exact ⟨m, ofSource_split_iff.mpr ⟨h, rfl⟩, rfl⟩

/-- A base is accepted exactly when its components can have a mount. -/
theorem exists_ofUri_iff {source : Source} {u : Uri} :
    (∃ m, ofUri source u = .ok m) ↔ u.IsMountable := by
  constructor
  · rintro ⟨m, hm⟩
    obtain ⟨hp, hs, hh, -⟩ := ofUri_eq_ok_iff.mp hm
    exact ⟨hs, hh, hp⟩
  · intro h
    obtain ⟨m, -, hb⟩ := exists_ofSource_split h
    exact ⟨m, ofUri_eq_ok_iff.mpr ⟨h.port_isOk, h.scheme_ne_nil, h.host_isSome, hb⟩⟩

/-- A URI of the same origin as a mount can have one too. -/
theorem isMountable_of_origin (m : Mount) {u : Uri} (hs : u.scheme = m.scheme)
    (ha : u.authority = m.authority) : u.IsMountable where
  scheme_ne_nil := hs ▸ m.scheme_ne_nil
  host_isSome := ha ▸ m.host_isSome
  port_isOk := ha ▸ m.port_isOk

/-- A source with the scheme, the authority and the path of another one makes the same mount. -/
theorem ofSource_congr {source other : Source} {u v : Uri} (hu : source.uri = .ok u)
    (hv : other.uri = .ok v) (hs : v.scheme = u.scheme) (ha : v.authority = u.authority)
    (hp : v.path = u.path) {m : Mount} (hm : ofSource (some source) = .ok m) :
    ofSource (some other) = .ok m := by
  obtain ⟨w, hw, -, hbase⟩ := ofSource_eq_ok_iff.mp hm
  obtain rfl : w = u := Except.ok.inj (hw.symm.trans hu)
  have hmountable := m.isMountable_of_origin (hs.trans (congrArg Uri.scheme hbase).symm)
    (ha.trans (congrArg Uri.authority hbase).symm)
  refine ofSource_eq_ok_iff.mpr ⟨v, hv, hmountable, ?_⟩
  rw [hbase, baseAt, baseAt, hs, ha, hp]

/-- The path of a mount at a URI is the path of the URI without slashes at its end. -/
theorem basePath_of_base_eq {m : Mount} {u : Uri} (h : m.base = baseAt u) :
    m.basePath = trimEnd isSlash u.path := by
  have hd : m.directory = asDirectory u.path := congrArg Uri.path h
  rw [basePath, hd, asDirectory]
  split
  · rfl
  · refine trimEnd_append_of_forall fun c hc => ?_
    rw [List.mem_singleton.mp hc]
    rfl

/-- The directory of a rooted path starts with a slash. -/
theorem head?_asDirectory {path : Text} (h : IsRooted path) :
    (asDirectory path).head? = some '/' := by
  unfold asDirectory
  split
  · rename_i hl
    rcases h with rfl | h
    · cases hl
    · exact h
  · rw [List.head?_append]
    rcases h with rfl | h
    · rfl
    · rw [h]
      rfl

/-- The base of a mount at a hosted URI is hosted. -/
theorem hosted_baseAt {u : Uri} (h : u.Hosted) : (baseAt u).Hosted where
  toIsOrigin := h.toIsOrigin
  path_isRooted := Or.inr (head?_asDirectory h.path_isRooted)

/-- A mount at hosted components has a hosted base. -/
theorem hosted_base_of_split {u : Uri} (h : u.Hosted) {m : Mount}
    (hm : ofSource (some (.split u)) = .ok m) : m.base.Hosted := by
  rw [(ofSource_split_iff.mp hm).2]
  exact hosted_baseAt h

/-- The path of a mount at a hosted URI is rooted. -/
theorem isRooted_basePath {m : Mount} (h : m.base.Hosted) : IsRooted m.basePath :=
  h.path_isRooted.of_isPrefix (List.rdropWhile_prefix isSlash m.directory)

/-- Slashes are dropped behind the origin only, so a written mount is its origin and
its path. -/
theorem render_eq {m : Mount} (h : m.base.Hosted) : m.render = m.base.origin ++ m.basePath := by
  have hrest : m.base.rest = m.directory := by
    simp only [Uri.rest, base, marked_nil, List.append_nil]
  have hlast : ∀ c, m.base.origin.getLast? = some c → isSlash c = false := by
    intro c hc
    rw [Uri.getLast?_origin h.authority_ne_nil] at hc
    have he := (h.of_mem_authority c (List.mem_of_getLast? hc)).1
    simp only [Authority.isEnd, Bool.or_eq_false_iff] at he
    exact he.1.1
  rw [render, h.render_eq, hrest, trimEnd_append hlast, basePath]

/-- Reading a mount at a hosted URI again keeps the origin. -/
theorem exists_uri {m : Mount} (h : m.base.Hosted) : ∃ v, m.uri = .ok v ∧
    v.scheme = m.scheme ∧ v.authority = m.authority ∧ IsRooted v.path := by
  have hrest : Authority.IsRest m.basePath := (isRooted_basePath h).isRest
  have hs := Uri.split_origin_append h.toIsOrigin hrest
  rw [← render_eq h] at hs
  exact ⟨_, hs, rfl, rfl, Uri.isRooted_withRest hrest.filter⟩

/-- A mount with a hosted and clean base is read as its base without slashes at the end of
the path. -/
theorem uri_of_clean {m : Mount} (h : m.base.Hosted) (hc : m.base.Clean) :
    m.uri = .ok { m.base with path := m.basePath } := by
  let v : Uri := { m.base with path := m.basePath }
  have hhosted : v.Hosted := { h with path_isRooted := isRooted_basePath h }
  have hclean : v.Clean :=
    { hc with of_mem_path := fun c hm =>
        hc.of_mem_path c ((List.rdropWhile_prefix isSlash m.directory).subset hm) }
  have hrest : v.rest = m.basePath := by
    simp only [Uri.rest, v, base, marked_nil, List.append_nil]
  have hrender : m.render = v.render := by
    rw [render_eq h, hhosted.render_eq, hrest]
    rfl
  rw [uri, hrender, hhosted.split_render, hclean.reread_eq]

/-- A path below a mount with a rooted path is rooted. -/
theorem isRooted_path_of_basePath {m : Mount} (hp : IsRooted m.basePath) (extra : Text) :
    IsRooted (m.path extra) := by
  unfold path
  split
  · split
    · exact Or.inr rfl
    · exact hp
  · rcases hp with hp | hp
    · split
      · rename_i he
        rw [hp, List.nil_append]
        exact Or.inr he
      · rw [hp, List.nil_append]
        exact Or.inr rfl
    · split
      · exact Or.inr (List.mem_head?_append_of_mem_head? hp)
      · exact Or.inr (List.mem_head?_append_of_mem_head? hp)

/-- A path below a mount at a hosted URI is rooted. -/
theorem isRooted_path {m : Mount} (h : m.base.Hosted) (extra : Text) :
    IsRooted (m.path extra) :=
  isRooted_path_of_basePath (isRooted_basePath h) extra

/-- The base of a mount at a source that is read is hosted and clean. -/
theorem hosted_clean_base {source : Source} (hsource : source.IsWritten) {m : Mount}
    (hm : ofSource (some source) = .ok m) : m.base.Hosted ∧ m.base.Clean := by
  obtain ⟨u, hu, hmountable, hb⟩ := ofSource_eq_ok_iff.mp hm
  have hhosted := hsource.hosted hu (Authority.ne_nil_of_host?_isSome hmountable.host_isSome)
  have hclean := hsource.clean hu
  rw [hb]
  refine ⟨hosted_baseAt hhosted, ⟨fun c hc => ?_, fun c hc => ?_, fun c hc => ?_⟩⟩
  · change c ∈ asDirectory u.path at hc
    unfold asDirectory at hc
    split at hc
    · exact hclean.of_mem_path c hc
    · rcases List.mem_append.mp hc with hc | hc
      · exact hclean.of_mem_path c hc
      · rw [List.mem_singleton.mp hc]
        decide
  · cases hc
  · cases hc

/-- The base of a mount has no parameters. -/
theorem not_mem_base (m : Mount) : ';' ∉ afterLast '/' m.base.path := by
  change ';' ∉ afterLast '/' m.directory
  rw [afterLast_of_getLast? m.directory_getLast?]
  exact List.not_mem_nil

/-- References are resolved against the base of a mount at a source that is read. -/
theorem isBase {source : Source} (hsource : source.IsWritten) {m : Mount}
    (hm : ofSource (some source) = .ok m) : m.base.IsBase := by
  obtain ⟨hhosted, hclean⟩ := hosted_clean_base hsource hm
  exact ⟨hhosted, hclean, m.not_mem_base⟩

/-- A URI with a directory for its path and nothing behind it is the base of its mount. -/
theorem baseAt_eq_self {u : Uri} (hp : u.path.getLast? = some '/') (hq : u.query = [])
    (hf : u.fragment = []) : baseAt u = u := by
  cases u
  cases hq
  cases hf
  exact congrArg (Uri.mk _ _ · _ _) (if_pos hp)

/-- Mounts are known by their bases. -/
theorem base_injective {m n : Mount} (h : m.base = n.base) : m = n := by
  simp only [base, Uri.mk.injEq, and_true] at h
  exact ext_iff.mpr h

section

variable {m : Mount} (hhosted : m.base.Hosted) (hclean : m.base.Clean)
include hhosted hclean

/-- At a clean mount a local reference leads to its target. -/
theorem resolve_of_isLocal {reference : Text} {r : Uri} (hr : IsLocal reference r)
    (hne : reference ≠ []) : m.resolve reference = .ok (m.base.localTarget r) := by
  rw [resolve, hhosted.resolve_of_isLocal hr hne, hclean.reread_eq]

/-- At a clean mount the empty reference leads to the base. -/
theorem resolve_nil : m.resolve [] = .ok m.base := by
  rw [resolve, hhosted.resolve_nil, hclean.reread_eq]

end

end Mount

end UriMount

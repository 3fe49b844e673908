import UriMount.Proofs.PathReferences

/-!
# Mounts at raw paths

A path that is handed in need not start with a slash. A mount at such a path takes it as it is:
its own path and all paths below it lack the slash. Where the mount is written, a slash is put
in front, so in all other respects it is the mount at the path with the slash.
-/

namespace UriMount

open Text

/-- A path keeps a slash in front when the slashes at its end are trimmed, unless nothing is left
of it, and no other path gets one. -/
theorem isRooted_trimEnd_iff {path : Text} :
    IsRooted (trimEnd isSlash path) ↔ IsRooted path := by
  refine ⟨fun h => ?_, fun h => h.of_isPrefix (List.rdropWhile_prefix isSlash path)⟩
  obtain ⟨tail, htail, hslash⟩ := exists_trimEnd_append isSlash path
  rcases h with h | h
  · rw [h, List.nil_append] at htail
    subst htail
    cases tail with
    | nil => exact Or.inl rfl
    | cons c tail => exact Or.inr (congrArg some (eq_of_beq (hslash c (List.mem_cons_self ..))))
  · exact Or.inr (htail ▸ List.mem_head?_append_of_mem_head? h)

namespace Uri

/-! ## Paths with a slash put in front -/

/-- A path that is there ends as it did. -/
theorem getLast?_rooted {path : Text} (h : path ≠ []) :
    (rooted path).getLast? = path.getLast? := by
  unfold rooted
  split
  · rfl
  · obtain ⟨c, t, rfl⟩ := List.exists_cons_of_ne_nil h
    exact List.getLast?_cons_cons

/-- No slash is put in front of nothing. -/
theorem rooted_eq_nil_iff {path : Text} : rooted path = [] ↔ path = [] := by
  constructor
  · intro h
    by_contra hne
    have hhead := head?_rooted hne
    rw [h] at hhead
    cases hhead
  · rintro rfl
    rfl

/-- The slashes at the end may be trimmed before a slash is put in front. -/
theorem trimEnd_rooted (path : Text) :
    trimEnd isSlash (rooted path) = rooted (trimEnd isSlash path) := by
  by_cases h : trimEnd isSlash path = []
  · have hrooted : IsRooted path := isRooted_trimEnd_iff.mp (Or.inl h)
    rw [rooted_of_isRooted hrooted, h]
    rfl
  · obtain ⟨tail, htail, hslash⟩ := exists_trimEnd_append isSlash path
    have hlast : ∀ c, (rooted (trimEnd isSlash path)).getLast? = some c → isSlash c = false := by
      intro c hc
      rw [getLast?_rooted h] at hc
      exact eq_false_of_getLast?_trimEnd hc
    calc trimEnd isSlash (rooted path)
        = trimEnd isSlash (rooted (trimEnd isSlash path) ++ tail) := by
          rw [← rooted_append_of_ne_nil h, htail]
      _ = trimEnd isSlash (rooted (trimEnd isSlash path)) := trimEnd_append_of_forall hslash
      _ = rooted (trimEnd isSlash path) := trimEnd_of_getLast? hlast

/-- A reference is resolved against a hosted base as against the one with a rooted path. -/
theorem resolve_rooted {u : Uri} (ha : u.authority ≠ []) (reference : Text) :
    { u with path := rooted u.path }.resolve reference = u.resolve reference := by
  have hstandIn := render_rooted (u := { u with scheme := Scheme.http }) ha
  simp only [resolve, render_rooted ha, hstandIn]

end Uri

namespace Mount

/-- A directory may get a slash in front before or after the one at its end. -/
theorem asDirectory_rooted (path : Text) :
    asDirectory (Uri.rooted path) = Uri.rooted (asDirectory path) := by
  by_cases h : path = []
  · rw [h]
    rfl
  · rw [asDirectory, asDirectory, Uri.getLast?_rooted h]
    split
    · rfl
    · exact (Uri.rooted_append_of_ne_nil h ['/']).symm

/-- The mount at a URI with a slash put in front of its path. -/
theorem exists_ofSource_rooted {v : Uri} {m : Mount}
    (hm : ofSource (some (.split v)) = .ok m) :
    ∃ n, ofSource (some (.split { v with path := Uri.rooted v.path })) = .ok n ∧
      n.base = { m.base with path := Uri.rooted m.base.path } := by
  obtain ⟨hmountable, hbase⟩ := ofSource_split_iff.mp hm
  obtain ⟨n, hn, hrooted⟩ := exists_ofSource_split (u := { v with path := Uri.rooted v.path })
    ⟨hmountable.scheme_ne_nil, hmountable.host_isSome, hmountable.port_isOk⟩
  refine ⟨n, hn, ?_⟩
  rw [hrooted, hbase]
  simp only [baseAt, asDirectory_rooted]

section

variable {n m : Mount} (h : n.base = { m.base with path := Uri.rooted m.base.path })
include h

/-- The slash in front does not show when the mount is written. -/
theorem render_of_rooted : n.render = m.render := by
  rw [render, render, h, Uri.render_rooted m.authority_ne_nil]

/-- The slash in front does not show when a reference is resolved. -/
theorem resolve_of_rooted (reference : Text) : n.resolve reference = m.resolve reference := by
  rw [resolve, resolve, h, Uri.resolve_rooted m.authority_ne_nil]

/-- The path of the mount gets the slash. -/
theorem basePath_of_rooted : n.basePath = Uri.rooted m.basePath := by
  have hdirectory : n.directory = Uri.rooted m.directory := congrArg Uri.path h
  rw [basePath, hdirectory, Uri.trimEnd_rooted, basePath]

/-- A path below the mount gets the slash. -/
theorem path_of_rooted (extra : Text) : n.path extra = Uri.rooted (m.path extra) := by
  have hpath := basePath_of_rooted h
  by_cases hn : m.basePath = []
  · have hsame : n.basePath = m.basePath := by
      rw [hpath, hn]
      rfl
    rw [Uri.rooted_of_isRooted (isRooted_path_of_basePath (Or.inl hn) extra), path, path, hsame]
  · have hne : Uri.rooted m.basePath ≠ [] := mt Uri.rooted_eq_nil_iff.mp hn
    simp only [path, hpath, hn, hne, ite_false]
    split
    · rfl
    · split
      · exact (Uri.rooted_append_of_ne_nil hn _).symm
      · exact (Uri.rooted_append_of_ne_nil hn _).symm

end

/-- A path below a mount starts with a slash exactly when the path of the mount is rooted. -/
theorem head?_path_iff {m : Mount} (extra : Text) :
    (m.path extra).head? = some '/' ↔ IsRooted m.basePath := by
  constructor
  · exact fun h => IsRooted.of_isPrefix (Or.inr h) (m.basePath_isPrefix_path extra)
  · exact fun h => (isRooted_path_of_basePath h extra).resolve_left (m.path_ne_nil extra)

end Mount

/-- The path of a mount at raw components is theirs without the slashes at its end. It is empty
or starts with a slash, and a path below the mount starts with one, exactly when theirs is empty
or starts with one. Where it does not, only the path of the mount and the paths below it lack the
slash: at the path with the slash there is a mount that is written and read alike, resolves all
references alike, and has the slash in front of its path and of every path below it. -/
theorem isRooted_basePath_iff {v : Uri} {m : Mount}
    (hm : Mount.ofSource (some (.split v)) = .ok m) :
    m.basePath = trimEnd isSlash v.path ∧
      (m.basePath = [] ∨ m.basePath.head? = some '/' ↔
        v.path = [] ∨ v.path.head? = some '/') ∧
      (∀ extra, (m.path extra).head? = some '/' ↔ v.path = [] ∨ v.path.head? = some '/') ∧
      ∃ n, Mount.ofSource (some (.split { v with path := Uri.rooted v.path })) = .ok n ∧
        n.render = m.render ∧ n.uri = m.uri ∧
        (∀ reference, n.resolve reference = m.resolve reference) ∧
        n.basePath = Uri.rooted m.basePath ∧
        ∀ extra, n.path extra = Uri.rooted (m.path extra) := by
  have hpath := Mount.basePath_of_base_eq (Mount.ofSource_split_iff.mp hm).2
  have hrooted : IsRooted m.basePath ↔ IsRooted v.path := hpath ▸ isRooted_trimEnd_iff
  obtain ⟨n, hn, hbase⟩ := Mount.exists_ofSource_rooted hm
  have hrender := Mount.render_of_rooted hbase
  refine ⟨hpath, hrooted, fun extra => (Mount.head?_path_iff extra).trans hrooted, n, hn, hrender,
    ?_, Mount.resolve_of_rooted hbase, Mount.basePath_of_rooted hbase,
    Mount.path_of_rooted hbase⟩
  rw [Mount.uri, Mount.uri, hrender]

/-- A raw path that ends with slashes and does not start with one. -/
theorem isRooted_basePath_iff_of_slashes :
    ∃ m n, Mount.ofSource
        (some (.split ⟨"App".toList, "u@H:1".toList, "a//".toList, "q".toList, []⟩)) = .ok m ∧
      m.basePath = "a".toList ∧ m.path "x".toList = "a/x".toList ∧
      ¬(∃ extra, (m.path extra).head? = some '/') ∧
      Mount.ofSource
        (some (.split ⟨"App".toList, "u@H:1".toList, "/a//".toList, "q".toList, []⟩)) = .ok n ∧
      n.render = m.render ∧ n.path "x".toList = "/a/x".toList := by
  let m : Mount :=
    ⟨"App".toList, "u@H:1".toList, "a//".toList, by decide, by rfl, by rfl, by rfl⟩
  have hm : Mount.ofSource
      (some (.split ⟨"App".toList, "u@H:1".toList, "a//".toList, "q".toList, []⟩)) = .ok m := by
    rfl
  obtain ⟨hbase, -, hpaths, n, hn, hrender, -, -, -, hextra⟩ := isRooted_basePath_iff hm
  refine ⟨m, n, hm, hbase.trans (by decide), by decide, ?_, hn, hrender,
    (hextra _).trans (by decide)⟩
  rintro ⟨extra, hextra⟩
  exact absurd ((hpaths extra).mp hextra) (by decide)

/-- Not every mount at raw components has a path that is empty or starts with a slash, nor do
all paths below it start with one: the path is not looked at. -/
theorem not_isRooted_basePath_of_raw :
    ¬∀ (v : Uri) (m : Mount), Mount.ofSource (some (.split v)) = .ok m →
      (m.basePath = [] ∨ m.basePath.head? = some '/') ∧
        ∀ extra, (m.path extra).head? = some '/' := by
  intro h
  let m : Mount := ⟨"http".toList, "h".toList, "app/".toList, by decide, by rfl, by rfl, by rfl⟩
  have hm : Mount.ofSource
      (some (.split ⟨"http".toList, "h".toList, "app".toList, [], []⟩)) = .ok m := by rfl
  have hpath : (m.path "x".toList).head? = some '/' := (h _ m hm).2 _
  exact absurd hpath (by decide)

end UriMount

import UriMount.Reference

/-!
# Mounts

A deployment is mounted at a base: a scheme, an authority and the directory of
the host below which its paths lie. References are resolved against the base,
so that a rooted one leaves the directory, while paths are always put below it.
-/

namespace UriMount

open Text

/-- Where a deployment is mounted. A mount names a host, and no port or a proper
one, and its directory ends with a slash. -/
structure Mount where
  /-- The scheme of every URI below the mount. -/
  scheme : Text
  /-- The authority of every URI below the mount. -/
  authority : Text
  /-- The path of the mount, with a slash at its end. -/
  directory : Text
  /-- There is a scheme. -/
  scheme_ne_nil : scheme ≠ []
  /-- There is a host. -/
  host_isSome : (Authority.host? authority).isSome
  /-- There is no port, or a proper one. -/
  port_isOk : (Authority.port? authority).isOk
  /-- The directory ends with a slash. -/
  directory_getLast? : directory.getLast? = some '/'
deriving DecidableEq

namespace Mount

/-- A path as a directory: a slash is put behind it where none is. -/
def asDirectory (path : Text) : Text := if path.getLast? = some '/' then path else path ++ ['/']

/-- A directory ends with a slash. -/
theorem getLast?_asDirectory (path : Text) : (asDirectory path).getLast? = some '/' := by
  unfold asDirectory
  split
  · assumption
  · exact List.getLast?_concat

/-- The mount at a base, whose source is shown in messages. The port is looked at
before the scheme and the host; query and fragment do not count. -/
def ofUri (source : Source) (u : Uri) : Except Error Mount :=
  if port : (Authority.port? u.authority).isOk then
    if named : u.scheme ≠ [] ∧ (Authority.host? u.authority).isSome then
      .ok ⟨u.scheme, u.authority, asDirectory u.path, named.1, named.2, port,
        getLast?_asDirectory u.path⟩
    else .error (.incompleteBase source)
  else .error (.basePort source)

/-- The mount at a base that is handed in. -/
def ofSource (base : Option Source) : Except Error Mount := do
  let source ← Error.require baseArgument base
  ofUri source (← Error.ofSplit source.uri)

/-- The base that references are resolved against. -/
def base (m : Mount) : Uri := ⟨m.scheme, m.authority, m.directory, [], []⟩

/-- The path of the mount without slashes at its end. -/
def basePath (m : Mount) : Text := trimEnd isSlash m.directory

/-- The mount as a written URI without slashes at its end. -/
def render (m : Mount) : Text := trimEnd isSlash m.base.render

/-- The mount as a URI without slashes at its end. -/
def uri (m : Mount) : Except AuthorityFault Uri := Uri.split m.render

/-- Resolves a written reference: a rooted one from the root of the host, any
other one below the mount. -/
def resolve (m : Mount) (reference : Text) : Except AuthorityFault Uri :=
  m.base.resolve reference

/-- Puts a path below the mount. The empty path is the mount itself. -/
def path (m : Mount) (extra : Text) : Text :=
  if extra = [] then
    if m.basePath = [] then ['/'] else m.basePath
  else if extra.head? = some '/' then m.basePath ++ extra
  else m.basePath ++ '/' :: extra

/-- A mount has an authority. -/
theorem authority_ne_nil (m : Mount) : m.authority ≠ [] :=
  Authority.ne_nil_of_host?_isSome m.host_isSome

/-- The path of a mount never ends with a slash. -/
theorem getLast?_basePath (m : Mount) : m.basePath.getLast? ≠ some '/' := by
  intro h
  cases eq_false_of_getLast?_trimEnd h

/-- A mount is known by its scheme, its authority and its directory. -/
theorem ext_iff {m n : Mount} :
    m = n ↔ m.scheme = n.scheme ∧ m.authority = n.authority ∧ m.directory = n.directory := by
  cases m
  cases n
  simp only [mk.injEq]

/-- A base is accepted exactly when its port is proper and it names a scheme and a
host; the mount then takes over its scheme, its authority and its directory. -/
theorem ofUri_eq_ok_iff {source : Source} {u : Uri} {m : Mount} :
    ofUri source u = .ok m ↔ (Authority.port? u.authority).isOk ∧ u.scheme ≠ [] ∧
      (Authority.host? u.authority).isSome ∧
      m.base = ⟨u.scheme, u.authority, asDirectory u.path, [], []⟩ := by
  unfold ofUri
  split
  · rename_i port
    split
    · rename_i named
      simp only [Except.ok.injEq, ext_iff, base, Uri.mk.injEq, and_true, port, named.1, named.2,
        ne_eq, not_false_eq_true, true_and]
      exact ⟨fun ⟨hs, ha, hd⟩ => ⟨hs.symm, ha.symm, hd.symm⟩,
        fun ⟨hs, ha, hd⟩ => ⟨hs.symm, ha.symm, hd.symm⟩⟩
    · rename_i named
      simp only [reduceCtorEq, false_iff]
      exact fun h => named ⟨h.2.1, h.2.2.1⟩
  · rename_i port
    simp only [reduceCtorEq, false_iff]
    exact fun h => port h.1

/-- A base is refused for its port, whatever else is wrong with it, and for a missing scheme or
host if the port is proper. -/
theorem ofUri_eq_error_iff {source : Source} {u : Uri} {e : Error} :
    ofUri source u = .error e ↔
      ¬(Authority.port? u.authority).isOk ∧ e = .basePort source ∨
        (Authority.port? u.authority).isOk ∧
          ¬(u.scheme ≠ [] ∧ (Authority.host? u.authority).isSome) ∧ e = .incompleteBase source := by
  unfold ofUri
  split
  · rename_i port
    split
    · rename_i named
      refine iff_of_false (fun h => by cases h) ?_
      rintro (⟨improper, -⟩ | ⟨-, unnamed, -⟩)
      · exact improper port
      · exact unnamed named
    · rename_i unnamed
      constructor
      · rintro ⟨⟩
        exact Or.inr ⟨port, unnamed, rfl⟩
      · rintro (⟨improper, -⟩ | ⟨-, -, rfl⟩)
        · exact absurd port improper
        · rfl
  · rename_i improper
    constructor
    · rintro ⟨⟩
      exact Or.inl ⟨improper, rfl⟩
    · rintro (⟨-, rfl⟩ | ⟨port, -⟩)
      · rfl
      · exact absurd port improper

end Mount

end UriMount

import UriMount.Proofs.Slashes

/-!
# What a mount is known by

A mount shows the scheme, the authority and the path of what it was read from, and nothing
else: it is written, read and mounted again without losing any of them. The empty reference
gives its base away, so two mounts that resolve alike are the same.
-/

namespace UriMount

open Text

namespace Mount

/-- The origin of a mount is written with its scheme, which is never missing. -/
theorem origin_base (m : Mount) : m.base.origin = m.scheme ++ "://".toList ++ m.authority := by
  have hs : m.base.scheme ≠ [] := m.scheme_ne_nil
  simp only [Uri.origin, Uri.renderScheme, hs, ite_false, List.append_assoc]
  rfl

/-- The mount at what a mount with a hosted and clean base is read as shows the same. -/
theorem exists_ofSource_uri {m : Mount} (hhosted : m.base.Hosted) (hclean : m.base.Clean) :
    ∃ v n, m.uri = .ok v ∧ ofSource (some (.split v)) = .ok n ∧
      n.render = m.render ∧ n.basePath = m.basePath ∧ n.uri = m.uri := by
  let v : Uri := { m.base with path := m.basePath }
  have hv : v.Hosted := { hhosted with path_isRooted := isRooted_basePath hhosted }
  have hread : (Source.split v).uri = .ok v := rfl
  obtain ⟨n, hn, hsame⟩ := exists_samePlace (m := m) hread rfl rfl
    (List.rdropWhile_idempotent isSlash m.directory)
  have hnHosted := hosted_base_of_split hv hn
  exact ⟨v, n, uri_of_clean hhosted hclean, hn, hsame.render_eq hnHosted hhosted,
    hsame.basePath_eq, hsame.uri_eq hnHosted hhosted⟩

end Mount

/-- A mount shows the components that it was read from: its path is their path without the
slashes at its end, and it is written and read as their scheme, their authority and that
path. The mount at what it is read as shows the same. -/
theorem mount_shows_components {source : Source} (hsource : source.IsWritten) {u : Uri}
    (hu : readUri baseArgument (some source) = .ok u) {m : Mount}
    (hm : Mount.ofSource (some source) = .ok m) :
    m.basePath = trimEnd isSlash u.path ∧
      (m.basePath = [] ∨ m.basePath.head? = some '/') ∧ m.basePath.getLast? ≠ some '/' ∧
      m.render = u.scheme ++ "://".toList ++ u.authority ++ m.basePath ∧
      m.uri = .ok ⟨u.scheme, u.authority, m.basePath, [], []⟩ ∧
      ∃ v n, m.uri = .ok v ∧ Mount.ofSource (some (.split v)) = .ok n ∧
        n.render = m.render ∧ n.basePath = m.basePath ∧ n.uri = m.uri := by
  obtain ⟨w, hw, -, hbase⟩ := Mount.ofSource_eq_ok_iff.mp hm
  obtain rfl : w = u := Except.ok.inj (hw.symm.trans (readUri_eq_ok_iff.mp hu))
  obtain ⟨hhosted, hclean⟩ := Mount.hosted_clean_base hsource hm
  have hs : m.scheme = w.scheme := congrArg Uri.scheme hbase
  have ha : m.authority = w.authority := congrArg Uri.authority hbase
  refine ⟨Mount.basePath_of_base_eq hbase, Mount.isRooted_basePath hhosted, m.getLast?_basePath,
    ?_, ?_, Mount.exists_ofSource_uri hhosted hclean⟩
  · rw [Mount.render_eq hhosted, m.origin_base, hs, ha]
  · rw [Mount.uri_of_clean hhosted hclean, ← hs, ← ha]
    rfl

/-- Blanks, parameters and slashes in the path of a mount, below which a query was dropped. -/
theorem mount_shows_components_of_slashes :
    ∃ u m, readUri baseArgument (some (.text " App://u@H:1//a /b;p ///?q".toList)) = .ok u ∧
      Mount.ofSource (some (.text " App://u@H:1//a /b;p ///?q".toList)) = .ok m ∧
      m.basePath = trimEnd isSlash u.path ∧
      (m.basePath = [] ∨ m.basePath.head? = some '/') ∧ m.basePath.getLast? ≠ some '/' ∧
      m.render = u.scheme ++ "://".toList ++ u.authority ++ m.basePath ∧
      m.uri = .ok ⟨u.scheme, u.authority, m.basePath, [], []⟩ ∧
      ∃ v n, m.uri = .ok v ∧ Mount.ofSource (some (.split v)) = .ok n ∧
        n.render = m.render ∧ n.basePath = m.basePath ∧ n.uri = m.uri := by
  let u : Uri := ⟨"app".toList, "u@H:1".toList, "//a /b;p ///".toList, "q".toList, []⟩
  let m : Mount :=
    ⟨"app".toList, "u@H:1".toList, "//a /b;p ///".toList, by decide, by rfl, by rfl, by rfl⟩
  have hu : readUri baseArgument (some (.text " App://u@H:1//a /b;p ///?q".toList)) = .ok u := by
    rfl
  have hm : Mount.ofSource (some (.text " App://u@H:1//a /b;p ///?q".toList)) = .ok m := by rfl
  exact ⟨u, m, hu, hm, mount_shows_components (Source.isWritten_text _) hu hm⟩

/-- Mounts that were read are the same exactly when their bases and their paths are, when
they resolve all references and put all paths alike, when they resolve the empty reference
alike, and when the components that they were read from agree, up to a missing slash at the
end of the path. -/
theorem mount_eq_tfae {a b : Source} (ha : a.IsWritten) (hb : b.IsWritten) {u v : Uri}
    (hu : readUri baseArgument (some a) = .ok u) (hv : readUri baseArgument (some b) = .ok v)
    {m n : Mount} (hm : Mount.ofSource (some a) = .ok m) (hn : Mount.ofSource (some b) = .ok n) :
    [m = n,
      m.base = n.base ∧ m.basePath = n.basePath,
      (∀ reference, m.resolve reference = n.resolve reference) ∧
        ∀ extra, m.path extra = n.path extra,
      m.resolve [] = n.resolve [],
      u.scheme = v.scheme ∧ u.authority = v.authority ∧
        Mount.asDirectory u.path = Mount.asDirectory v.path].TFAE := by
  obtain ⟨u', hu', -, hmBase⟩ := Mount.ofSource_eq_ok_iff.mp hm
  obtain ⟨v', hv', -, hnBase⟩ := Mount.ofSource_eq_ok_iff.mp hn
  obtain rfl : u' = u := Except.ok.inj (hu'.symm.trans (readUri_eq_ok_iff.mp hu))
  obtain rfl : v' = v := Except.ok.inj (hv'.symm.trans (readUri_eq_ok_iff.mp hv))
  obtain ⟨hmHosted, hmClean⟩ := Mount.hosted_clean_base ha hm
  obtain ⟨hnHosted, hnClean⟩ := Mount.hosted_clean_base hb hn
  tfae_have 1 → 2 := by
    rintro rfl
    exact ⟨rfl, rfl⟩
  tfae_have 2 → 1 := fun h => Mount.base_injective h.1
  tfae_have 1 → 3 := by
    rintro rfl
    exact ⟨fun _ => rfl, fun _ => rfl⟩
  tfae_have 3 → 4 := fun h => h.1 []
  tfae_have 4 → 1 := by
    intro h
    rw [Mount.resolve_nil hmHosted hmClean, Mount.resolve_nil hnHosted hnClean] at h
    exact Mount.base_injective (Except.ok.inj h)
  tfae_have 1 ↔ 5 := by
    have hbases : m = n ↔ m.base = n.base := ⟨congrArg Mount.base, Mount.base_injective⟩
    rw [hbases, hmBase, hnBase]
    simp only [Mount.baseAt, Uri.mk.injEq, and_true]
  tfae_finish

/-- Slashes at the end of a path do not show when a mount is written, but the empty reference
tells mounts apart that differ in them. -/
theorem mount_eq_tfae_of_slashes :
    ∃ m n, Mount.ofSource (some (.text "Http://H/a;p".toList)) = .ok m ∧
      Mount.ofSource (some (.params
        ⟨⟨"http".toList, "H".toList, "/a".toList, "q".toList, []⟩, "p//".toList⟩)) = .ok n ∧
      m.render = n.render ∧ (∀ extra, m.path extra = n.path extra) ∧
      m.resolve [] ≠ n.resolve [] ∧ m ≠ n := by
  let a : Source := .text "Http://H/a;p".toList
  let b : Source :=
    .params ⟨⟨"http".toList, "H".toList, "/a".toList, "q".toList, []⟩, "p//".toList⟩
  let m : Mount := ⟨"http".toList, "H".toList, "/a;p/".toList, by decide, by rfl, by rfl, by rfl⟩
  let n : Mount := ⟨"http".toList, "H".toList, "/a;p//".toList, by decide, by rfl, by rfl, by rfl⟩
  have hm : Mount.ofSource (some a) = .ok m := by rfl
  have hn : Mount.ofSource (some b) = .ok n := by rfl
  have ha : readUri baseArgument (some a) =
      .ok ⟨"http".toList, "H".toList, "/a;p".toList, [], []⟩ := by rfl
  have hb : readUri baseArgument (some b) =
      .ok ⟨"http".toList, "H".toList, "/a;p//".toList, "q".toList, []⟩ := by rfl
  have hsame : n.SamePlace m := ⟨rfl, rfl, by rfl⟩
  have htfae := mount_eq_tfae (a := a) (b := b) trivial trivial ha hb hm hn
  have hresolve : m.resolve [] = n.resolve [] ↔ _ ∧ _ ∧
      Mount.asDirectory "/a;p".toList = Mount.asDirectory "/a;p//".toList := htfae.out 3 4
  have hequal : m = n ↔ m.resolve [] = n.resolve [] := htfae.out 0 3
  have hdiffer : m.resolve [] ≠ n.resolve [] := fun h => absurd (hresolve.mp h).2.2 (by decide)
  exact ⟨m, n, hm, hn, by rfl, fun extra => (hsame.path_eq extra).symm, hdiffer,
    mt hequal.mp hdiffer⟩

end UriMount

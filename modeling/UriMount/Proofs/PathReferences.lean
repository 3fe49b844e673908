import UriMount.Proofs.Destinations
import UriMount.Proofs.Extensions

/-!
# Paths that are taken for references

A path below a mount is put together as it is, without a look at the slashes in it. Taken for a
reference at the same mount, it stays at the host unless it opens with two slashes and a name,
which is then its authority. Below a path of the mount that does not open so itself there is no
such path.
-/

namespace UriMount

open Text

namespace Uri

/-- The authority that a text with a slash in front shows: what stands behind two slashes, up to
the next end character, without what is passed over. -/
def shownAuthority (t : Text) : Text := (Authority.cut (t.filter (!isSkipped ·))).1

/-- A rooted path is read without a scheme and with the authority that it shows. -/
theorem parts_of_head? {path : Text} (h : path.head? = some '/') :
    (parts path).scheme = [] ∧ (parts path).authority = shownAuthority path := by
  obtain ⟨t, rfl⟩ := List.head?_eq_some_iff.mp h
  have hrest : Authority.IsRest ('/' :: t) := IsRooted.isRest (Or.inr rfl)
  have hopens : Scheme.opens (('/' :: t).filter (!isSkipped ·)) = false := by
    rw [List.filter_cons_of_pos rfl]
    exact Scheme.opens_cons_slash _
  rw [parts, significant_of_isRest hrest, cut, Scheme.cut_of_not_opens hopens]
  exact ⟨rfl, rfl⟩

/-- A path that shows no authority is read. -/
theorem exists_split_of_shownAuthority {path : Text} (h : path.head? = some '/')
    (hn : shownAuthority path = []) : ∃ r, split path = .ok r := by
  refine ⟨_, split_eq_ok_iff.mpr ⟨rfl, ?_⟩⟩
  rw [(parts_of_head? h).2, hn]
  exact Authority.fault?_nil

end Uri

namespace Mount

/-- A path below a mount is never missing. -/
theorem path_ne_nil (m : Mount) (extra : Text) : m.path extra ≠ [] := by
  unfold path
  split
  · split
    · exact List.cons_ne_nil _ _
    · assumption
  · split
    · rename_i hne _
      exact List.append_ne_nil_of_right_ne_nil _ hne
    · exact List.append_ne_nil_of_right_ne_nil _ (List.cons_ne_nil _ _)

/-- A path below a mount at a hosted URI starts with a slash. -/
theorem head?_path {m : Mount} (h : m.base.Hosted) (extra : Text) :
    (m.path extra).head? = some '/' :=
  (isRooted_path h extra).resolve_left (m.path_ne_nil extra)

/-- The path of a mount stands in front of every path below it. -/
theorem basePath_isPrefix_path (m : Mount) (extra : Text) : m.basePath <+: m.path extra := by
  unfold path
  split
  · split
    · rename_i hn
      rw [hn]
      exact List.nil_prefix
    · exact List.prefix_rfl
  · split
    · exact List.prefix_append _ _
    · exact List.prefix_append _ _

/-- Below a path of the mount that does not open with two slashes, no path shows an authority. -/
theorem shownAuthority_path {m : Mount} (h : m.base.IsBase) (hne : m.basePath ≠ [])
    (hslashes : ¬['/', '/'] <+: m.basePath) (extra : Text) :
    Uri.shownAuthority (m.path extra) = [] := by
  have hhead := (isRooted_basePath h.toHosted).resolve_left hne
  obtain ⟨t, ht⟩ := List.head?_eq_some_iff.mp hhead
  obtain ⟨rest, hrest⟩ := m.basePath_isPrefix_path extra
  cases t with
  | nil =>
    have hlast := m.getLast?_basePath
    rw [ht] at hlast
    exact absurd rfl hlast
  | cons c t =>
    have hc : c ≠ '/' := by
      rintro rfl
      exact hslashes (ht ▸ List.prefix_append ['/', '/'] t)
    have hmem : c ∈ m.directory := (List.rdropWhile_prefix isSlash m.directory).subset
      (show c ∈ m.basePath from ht ▸ List.mem_cons_of_mem _ (List.mem_cons_self ..))
    have hkept : (m.path extra).filter (!Uri.isSkipped ·)
        = '/' :: c :: (t ++ rest).filter (!Uri.isSkipped ·) := by
      rw [← hrest, ht, List.cons_append, List.cons_append, List.filter_cons_of_pos rfl,
        List.filter_cons_of_pos (by rw [(h.of_mem_path c hmem).2.2]; rfl)]
    rw [Uri.shownAuthority, hkept, Authority.cut_of_not_announced]
    rintro r hr
    exact hc (List.cons.inj (List.cons.inj hr).2).1

end Mount

/-- A path below a mount, taken for a reference at the mount, keeps the scheme of the mount,
and it keeps the authority and is not refused if it shows no authority itself; otherwise it has
the authority that it shows. Below a path of the mount that is there and does not open with two
slashes, none is shown. -/
theorem exists_uri_resolve_path {source : Source} (hsource : source.IsWritten) {m : Mount}
    (hm : Mount.ofSource (some source) = .ok m) (extra : Text) :
    ∃ b, m.uri = .ok b ∧
      (Uri.shownAuthority (m.path extra) = [] → ∃ u, m.resolve (m.path extra) = .ok u) ∧
      (∀ u, m.resolve (m.path extra) = .ok u → u.scheme = b.scheme ∧
        u.authority = if Uri.shownAuthority (m.path extra) = [] then b.authority
          else Uri.shownAuthority (m.path extra)) ∧
      (m.basePath ≠ [] → ¬['/', '/'] <+: m.basePath →
        Uri.shownAuthority (m.path extra) = []) := by
  have hbase := Mount.isBase hsource hm
  have hhead := Mount.head?_path hbase.toHosted extra
  obtain ⟨hscheme, hauthority⟩ := Uri.parts_of_head? hhead
  refine ⟨_, Mount.uri_of_clean hbase.toHosted hbase.toClean, fun hn => ?_, fun u hu => ?_,
    fun hne hslashes => Mount.shownAuthority_path hbase hne hslashes extra⟩
  · obtain ⟨r, hr⟩ := Uri.exists_split_of_shownAuthority hhead hn
    exact ⟨_, (Mount.resolve_eq_ok_iff hbase).mpr ⟨r, hr, rfl⟩⟩
  · obtain ⟨r, hr, rfl⟩ := (Mount.resolve_eq_ok_iff hbase).mp hu
    obtain ⟨rfl, -⟩ := Uri.split_eq_ok_iff.mp hr
    have hshares : m.base.SharesScheme (Uri.parts (m.path extra)) := Or.inl hscheme
    refine ⟨Uri.destination_scheme hshares, ?_⟩
    rw [Uri.destination_authority hshares, hauthority]

/-- A path that leaves the root of the host and has tabs between its slashes, below a mount. -/
theorem exists_uri_resolve_path_of_tabs :
    ∃ m b u, Mount.ofSource (some (.text " App://u@H:1/a;b//?q".toList)) = .ok m ∧
      m.uri = .ok b ∧ m.path "/\t/../..//x?".toList = "/a;b/\t/../..//x?".toList ∧
      m.resolve "/a;b/\t/../..//x?".toList = .ok u ∧ u.scheme = b.scheme ∧
      u.authority = b.authority := by
  let m : Mount :=
    ⟨"app".toList, "u@H:1".toList, "/a;b//".toList, by decide, by rfl, by rfl, by rfl⟩
  have hm : Mount.ofSource (some (.text " App://u@H:1/a;b//?q".toList)) = .ok m := by rfl
  have hpath : m.path "/\t/../..//x?".toList = "/a;b/\t/../..//x?".toList := by rfl
  obtain ⟨b, hb, hresolve, hkept, hshown⟩ :=
    exists_uri_resolve_path (Source.isWritten_text _) hm "/\t/../..//x?".toList
  have hn := hshown (by decide) (by decide)
  obtain ⟨u, hu⟩ := hresolve hn
  obtain ⟨hs, ha⟩ := hkept u hu
  exact ⟨m, b, u, hm, hb, hpath, hpath ▸ hu, hs, ha.trans (if_pos hn)⟩

/-- Not every path stays at the host: at a mount without a path, one that opens with two
slashes and a name leads to the host of that name. -/
theorem not_resolve_path_of_slashes :
    ¬∀ (written extra : Text) (m : Mount) (b u : Uri),
      Mount.ofSource (some (.text written)) = .ok m → m.uri = .ok b →
      m.resolve (m.path extra) = .ok u → u.scheme = b.scheme ∧ u.authority = b.authority := by
  intro h
  let m : Mount := ⟨"http".toList, "h".toList, "/".toList, by decide, by rfl, by rfl, by rfl⟩
  have hm : Mount.ofSource (some (.text "http://h".toList)) = .ok m := by rfl
  have hb : m.uri = .ok ⟨"http".toList, "h".toList, [], [], []⟩ := by decide +kernel
  have hu : m.resolve (m.path "//x".toList) = .ok ⟨"http".toList, "x".toList, [], [], []⟩ := by
    decide +kernel
  have hauthority : "x".toList = "h".toList := (h _ _ m _ _ hm hb hu).2
  exact absurd hauthority (by decide)

end UriMount

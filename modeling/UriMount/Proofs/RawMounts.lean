import UriMount.Proofs.Hostless
import UriMount.Proofs.Mounts
import UriMount.Proofs.PathReferences

/-!
# Mounts at raw components

Components that are handed in are taken as they are, so any text may stand in them. A mount at
them has looked at the scheme, the host and the port that they name; asked for as a URI, it is
written out and read again. Only the scheme and the authority have a say in the authority that
is found then.
-/

namespace UriMount

open Text

namespace Authority

/-- Two authorities that name the same host and the same port. -/
def SamePlace (a b : Text) : Prop := host? a = host? b ∧ port? a = port? b

/-- The authority of a text stays when text that ends one is put behind at least two characters;
slashes leave it as it is behind any text. -/
theorem cut_fst_append {s t : Text} (ht : IsRest t)
    (h : 2 ≤ s.length ∨ ∀ c ∈ t, isSlash c = true) : (cut (s ++ t)).1 = (cut s).1 := by
  by_cases hs : ∃ r, s = '/' :: '/' :: r
  · obtain ⟨r, rfl⟩ := hs
    rw [cut_announced_append r ht]
  · rw [cut_of_not_announced fun r hr => hs ⟨r, hr⟩]
    by_contra hne
    obtain ⟨c, r, hr, hc⟩ := cut_fst_ne_nil_iff.mp hne
    -- The character behind the announcing slashes would be a slash of the second text.
    have hmem : s.length < 2 → c ∉ t := by
      intro hlt hm
      have hslash : isSlash c = true := h.resolve_left (Nat.not_le.mpr hlt) c hm
      rw [eq_of_beq hslash] at hc
      cases hc
    rcases s with _ | ⟨a, _ | ⟨b, s⟩⟩
    · refine hmem Nat.zero_lt_two ?_
      rw [← List.nil_append t, hr]
      exact List.mem_cons_of_mem _ (List.mem_cons_of_mem _ (List.mem_cons_self ..))
    · refine hmem Nat.one_lt_two ?_
      rw [show t = '/' :: c :: r from (List.cons.inj hr).2]
      exact List.mem_cons_of_mem _ (List.mem_cons_self ..)
    · obtain ⟨ha, hr⟩ := List.cons.inj hr
      exact hs ⟨s, by rw [ha, (List.cons.inj hr).1]⟩

end Authority

namespace Uri

/-- A text can be read with an authority of a kind exactly when the authority that is found in
it is of that kind and without fault. -/
theorem exists_split_iff {t : Text} {P : Text → Prop} :
    (∃ u, split t = .ok u ∧ P u.authority) ↔
      Authority.fault? (parts t).authority = none ∧ P (parts t).authority := by
  constructor
  · rintro ⟨u, hu, hP⟩
    obtain ⟨rfl, hfault⟩ := split_eq_ok_iff.mp hu
    exact ⟨hfault, hP⟩
  · rintro ⟨hfault, hP⟩
    exact ⟨parts t, split_eq_ok_iff.mpr ⟨rfl, hfault⟩, hP⟩

/-- A character that may lead is read wherever it stands. -/
theorem mem_significant {t : Text} {c : Char} (hc : c ∈ t) (hl : isLeading c = false) :
    c ∈ significant t := by
  refine List.mem_filter.mpr ⟨(mem_dropWhile_iff hl).mpr hc, ?_⟩
  rw [isSkipped_of_not_isLeading hl]
  rfl

/-- The authority of a text with a colon stays when text that ends it is put behind. -/
theorem parts_append_authority {s t : Text} (hc : ':' ∈ s) (ht : Authority.IsRest t)
    (h : 2 ≤ (Scheme.cut (significant s)).2.length ∨ ∀ c ∈ t, isSlash c = true) :
    (parts (s ++ t)).authority = (parts s).authority := by
  have hsig := significant_append_of_isRest hc (by decide) ht
  have hcolon : ':' ∈ significant s := mem_significant hc (by decide)
  change (Authority.cut (Scheme.cut (significant (s ++ t))).2).1 = _
  rw [hsig, Scheme.cut_append_of_mem hcolon]
  exact Authority.cut_fst_append ht.filter
    (h.imp_right fun hslash c hm => hslash c (List.mem_of_mem_filter hm))

/-- What is read of a raw scheme and a raw authority. -/
theorem significant_raw (scheme authority : Text) :
    significant (scheme ++ ':' :: '/' :: '/' :: authority) =
      significant (scheme ++ [':']) ++ ('/' :: '/' :: authority).filter (!isSkipped ·) := by
  rw [List.append_cons]
  refine significant_append_of_isRest (List.mem_append_right _ (List.mem_cons_self ..))
    (by decide) fun c hc => ?_
  cases hc
  rfl

/-- At least the two slashes stand behind a raw scheme. -/
theorem two_le_length_cut_raw (scheme authority : Text) : 2 ≤
    (Scheme.cut (significant (scheme ++ ':' :: '/' :: '/' :: authority))).2.length := by
  have hcolon : ':' ∈ significant (scheme ++ [':']) :=
    mem_significant (List.mem_append_right _ (List.mem_cons_self ..)) (by decide)
  rw [significant_raw, Scheme.cut_append_of_mem hcolon, List.filter_cons_of_pos rfl,
    List.filter_cons_of_pos rfl]
  simp only [List.length_append, List.length_cons]
  omega

/-- Behind a well-formed scheme a raw authority is read as the authority that it shows. -/
theorem parts_raw_authority {scheme : Text} (h : Scheme.isScheme scheme = true)
    (authority : Text) :
    (parts (scheme ++ ':' :: '/' :: '/' :: authority)).authority =
      shownAuthority ('/' :: '/' :: authority) := by
  obtain ⟨c, r, rfl, hc⟩ := Scheme.exists_cons_of_isScheme h
  have hsig : significant (c :: r ++ [':']) = c :: r ++ [':'] := by
    rw [significant, dropWhile_of_head?, filter_isSkipped]
    · intro d hd
      rcases List.mem_append.mp hd with hd | hd
      · exact Scheme.isSkipped_of_isSchemeChar (Scheme.isSchemeChar_of_mem h hd)
      · rw [List.mem_singleton.mp hd]
        rfl
    · rintro d hd
      cases hd
      exact isLeading_of_isAlpha hc
  change (Authority.cut (Scheme.cut (significant _)).2).1 = _
  rw [significant_raw, hsig, ← List.append_cons, Scheme.cut_append_colon_of_isScheme h]
  rfl

/-- A raw authority shows itself exactly when nothing in it ends it or is passed over. -/
theorem shownAuthority_eq_self_iff {authority : Text} :
    shownAuthority ('/' :: '/' :: authority) = authority ↔
      ∀ c ∈ authority, Authority.isEnd c = false ∧ isSkipped c = false := by
  constructor
  · intro h c hc
    rw [← h] at hc
    refine ⟨Authority.isEnd_of_mem_cut hc, ?_⟩
    have hm := (List.mem_filter.mp (Authority.mem_of_mem_cut_fst hc)).2
    rwa [Bool.not_eq_true'] at hm
  · intro h
    have hfilter : ('/' :: '/' :: authority).filter (!isSkipped ·) = '/' :: '/' :: authority :=
      congrArg ('/' :: '/' :: ·) (filter_isSkipped fun c hc => (h c hc).2)
    have hcut : Authority.cut ('/' :: '/' :: (authority ++ [])) = (authority, []) :=
      Authority.cut_append (fun c hc => (h c hc).1) fun c hc => by cases hc
    rw [List.append_nil] at hcut
    rw [shownAuthority, hfilter, hcut]

end Uri

namespace Mount

/-- A mount is written as its raw scheme and authority and a rooted path, up to slashes at the
end. -/
theorem exists_render_append (m : Mount) : ∃ tail, (∀ c ∈ tail, isSlash c = true) ∧
    m.render ++ tail =
      m.scheme ++ ':' :: '/' :: '/' :: m.authority ++ Uri.rooted m.directory := by
  obtain ⟨tail, htail, hslash⟩ := exists_trimEnd_append isSlash m.base.render
  refine ⟨tail, hslash, htail.trans ?_⟩
  rw [Uri.render_of_authority m.authority_ne_nil]
  simp only [Uri.renderScheme, base, m.scheme_ne_nil, ite_false, marked_nil, List.append_nil,
    List.append_assoc, List.cons_append, List.nil_append]

/-- The authority of a mount as a URI is read from its raw scheme and authority alone. -/
theorem parts_render_authority (m : Mount) : (Uri.parts m.render).authority =
    (Uri.parts (m.scheme ++ ':' :: '/' :: '/' :: m.authority)).authority := by
  obtain ⟨tail, hslash, happend⟩ := m.exists_render_append
  have hcolon : ':' ∈ m.scheme ++ ':' :: '/' :: '/' :: m.authority :=
    List.mem_append_right _ (List.mem_cons_self ..)
  have hrender : ':' ∈ m.render := by
    have hm : ':' ∈ m.render ++ tail := happend ▸ List.mem_append_left _ hcolon
    refine (List.mem_append.mp hm).resolve_right fun ht => ?_
    cases hslash ':' ht
  have htail : Authority.IsRest tail := by
    intro c hc
    rw [eq_of_beq (hslash c (List.mem_of_head? hc))]
    rfl
  rw [← Uri.parts_append_authority hrender htail (Or.inr hslash), happend]
  exact Uri.parts_append_authority hcolon (isRooted_rooted m.directory).isRest
    (Or.inl (Uri.two_le_length_cut_raw m.scheme m.authority))

/-- A mount is a URI with an authority of a kind exactly when its raw scheme and authority are
read as one. -/
theorem exists_uri_iff {m : Mount} {P : Text → Prop} :
    (∃ u, m.uri = .ok u ∧ P u.authority) ↔
      ∃ w, Uri.split (m.scheme ++ ':' :: '/' :: '/' :: m.authority) = .ok w ∧ P w.authority := by
  rw [uri, Uri.exists_split_iff, Uri.exists_split_iff, parts_render_authority]

/-- With a well-formed scheme it is the authority that is shown that counts. -/
theorem exists_uri_iff_of_isScheme {m : Mount} (h : Scheme.isScheme m.scheme = true)
    {P : Text → Prop} : (∃ u, m.uri = .ok u ∧ P u.authority) ↔
      Authority.fault? (Uri.shownAuthority ('/' :: '/' :: m.authority)) = none ∧
        P (Uri.shownAuthority ('/' :: '/' :: m.authority)) := by
  rw [exists_uri_iff, Uri.exists_split_iff, Uri.parts_raw_authority h]

end Mount

/-- A mount at raw components is a URI with their host and port exactly when their scheme and
authority are read as one, whatever their path is. With a well-formed scheme this is so exactly
when the authority that theirs shows is without fault and has their host and port; and it is
their authority exactly when nothing ends it, nothing in it is passed over and nothing is wrong
with it. -/
theorem exists_uri_samePlace_iff {v : Uri} {m : Mount}
    (hm : Mount.ofSource (some (.split v)) = .ok m) :
    ((∃ u, m.uri = .ok u ∧ Authority.SamePlace u.authority v.authority) ↔
      ∃ w, Uri.split (v.scheme ++ ':' :: '/' :: '/' :: v.authority) = .ok w ∧
        Authority.SamePlace w.authority v.authority) ∧
    (Scheme.isScheme v.scheme = true →
      ((∃ u, m.uri = .ok u ∧ Authority.SamePlace u.authority v.authority) ↔
        Authority.fault? (Uri.shownAuthority ('/' :: '/' :: v.authority)) = none ∧
          Authority.SamePlace (Uri.shownAuthority ('/' :: '/' :: v.authority)) v.authority) ∧
      ((∃ u, m.uri = .ok u ∧ u.authority = v.authority) ↔
        (∀ c ∈ v.authority, Authority.isEnd c = false ∧ Uri.isSkipped c = false) ∧
          Authority.fault? v.authority = none)) := by
  have hbase := (Mount.ofSource_split_iff.mp hm).2
  have hscheme : m.scheme = v.scheme := congrArg Uri.scheme hbase
  have hauthority : m.authority = v.authority := congrArg Uri.authority hbase
  rw [← hscheme, ← hauthority]
  refine ⟨Mount.exists_uri_iff (P := (Authority.SamePlace · m.authority)), fun h =>
    ⟨Mount.exists_uri_iff_of_isScheme h (P := (Authority.SamePlace · m.authority)), ?_⟩⟩
  rw [Mount.exists_uri_iff_of_isScheme h (P := (· = m.authority)),
    ← Uri.shownAuthority_eq_self_iff]
  constructor
  · rintro ⟨hfault, hself⟩
    exact ⟨hself, hself ▸ hfault⟩
  · rintro ⟨hself, hfault⟩
    exact ⟨hself.symm ▸ hfault, hself⟩

/-- Marks in a raw path, and a tab in front of a raw host. -/
theorem exists_uri_samePlace_of_marks :
    ∃ m u, Mount.ofSource (some (.split ⟨"Http".toList, "u\t@H:1".toList, "a?b#c//".toList,
        "q".toList, []⟩)) = .ok m ∧
      m.uri = .ok u ∧ Authority.SamePlace u.authority "u\t@H:1".toList := by
  let m : Mount :=
    ⟨"Http".toList, "u\t@H:1".toList, "a?b#c//".toList, by decide, by rfl, by rfl, by rfl⟩
  have hm : Mount.ofSource (some (.split ⟨"Http".toList, "u\t@H:1".toList, "a?b#c//".toList,
      "q".toList, []⟩)) = .ok m := by rfl
  obtain ⟨u, hu, hplace⟩ := ((exists_uri_samePlace_iff hm).2 (by decide)).1.mpr
    ⟨by decide +kernel, by rfl, by rfl⟩
  exact ⟨m, u, hm, hu, hplace⟩

/-- Not every mount at raw components is a URI with their host: a slash in the authority is part
of the host that is looked at, and ends the authority that is read. -/
theorem not_uri_samePlace_of_slash :
    ¬∀ (v : Uri) (m : Mount), Mount.ofSource (some (.split v)) = .ok m →
      ∃ u, m.uri = .ok u ∧ Authority.SamePlace u.authority v.authority := by
  intro h
  let m : Mount := ⟨"http".toList, "h/x".toList, "/".toList, by decide, by rfl, by rfl, by rfl⟩
  have hm : Mount.ofSource
      (some (.split ⟨"http".toList, "h/x".toList, [], [], []⟩)) = .ok m := by rfl
  have huri : m.uri = .ok ⟨"http".toList, "h".toList, "/x".toList, [], []⟩ := by decide +kernel
  obtain ⟨u, hu, hhost, -⟩ := h _ m hm
  rw [huri] at hu
  cases hu
  exact absurd hhost (by decide)

end UriMount

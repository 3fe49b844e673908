import UriMount.Proofs.Destinations

/-!
# What a reference takes from its base

Whether a reference leads anywhere is decided by the reference alone: the base is read without
a fault whenever it is written out, and so is the text that joining gives. Where it leads
depends on less of the base the more the reference spells out. One with an authority or with
another scheme takes the scheme of the base at most, and a rooted one its origin; the path of
the base reaches neither.
-/

namespace UriMount

open Text Reference

namespace Uri

/-! ## Faults -/

/-- The base that is written out when a reference is joined to it: it stands under the scheme
in which references are resolved. -/
def forJoining (u : Uri) : Uri := { u with scheme := Scheme.forReferences u.scheme }

theorem isRelative_forJoining (u : Uri) : Scheme.isRelative u.forJoining.scheme = true := by
  by_cases hrel : Scheme.isRelative u.scheme = true
  · rwa [forJoining, Scheme.forReferences_of_isRelative hrel]
  · rw [forJoining, Scheme.forReferences_of_not_isRelative hrel]
    exact Scheme.isRelative_http

namespace IsBase

variable {u : Uri} (h : u.IsBase)
include h

theorem forJoining : u.forJoining.IsBase := by
  by_cases hrel : Scheme.isRelative u.scheme = true
  · rwa [Uri.forJoining, Scheme.forReferences_of_isRelative hrel]
  · rw [Uri.forJoining, Scheme.forReferences_of_not_isRelative hrel]
    exact h.http

/-- What joining gives is read again, if it gives anything. -/
theorem exists_split_of_join (hf : u.fragment = []) (hrel : Scheme.isRelative u.scheme = true)
    {reference joined : Text} (hj : join u.render reference = .ok joined) :
    ∃ y, split joined = .ok y := by
  have hresolve := h.resolve_eq_map hf reference
  rw [resolve, if_pos hrel, hj] at hresolve
  cases hr : split reference with
  | ok r =>
    rw [hr] at hresolve
    exact ⟨u.destination r, hresolve⟩
  | error fault =>
    rw [h.join_render (ne_nil_of_split_eq_error hr), hr] at hj
    cases hj

end IsBase

/-! ## Destinations from different bases -/

section

variable {base other r : Uri} (hs : other.scheme = base.scheme)
include hs

theorem sharesScheme_congr : other.SharesScheme r ↔ base.SharesScheme r := by
  simp only [SharesScheme, hs]

/-- A URI takes part with the same parts in resolving against bases of one scheme. -/
theorem localParts_congr : other.localParts r = base.localParts r := by
  simp only [localParts, hs]

/-- A reference with an authority, or with another scheme, leads to the same place from all
bases of one scheme. -/
theorem destination_congr_of_absolute
    (hr : r.authority ≠ [] ∨ r.scheme ≠ [] ∧ r.scheme ≠ base.scheme) :
    other.destination r = base.destination r := by
  by_cases h : base.SharesScheme r
  · have ha : r.authority ≠ [] :=
      hr.resolve_right fun ⟨hne, hother⟩ => h.elim hne fun he => hother he.1
    rw [destination_of_authority ((sharesScheme_congr hs).mpr h) ha,
      destination_of_authority h ha, networkTarget, networkTarget, localParts_congr hs, hs]
  · rw [destination_of_other (mt (sharesScheme_congr hs).mp h), destination_of_other h]

/-- A rooted path replaces the path of a base, so bases of one origin lend the same to it. -/
theorem localTarget_congr_of_rooted (ho : ';' ∉ afterLast '/' other.path)
    (hb : ';' ∉ afterLast '/' base.path) (ha : other.authority = base.authority)
    (hr : r.authority = []) (hp : r.path.head? = some '/') :
    other.localTarget r = base.localTarget r := by
  have hhead : (base.localParts r).path.head? = some '/' :=
    ParamUri.head?_ofUri_path (u := { r with scheme := Scheme.forReferences base.scheme }) hp
  have hpath : ¬((base.localParts r).path = [] ∧ (base.localParts r).params = []) := by
    rintro ⟨hn, -⟩
    rw [hn] at hhead
    cases hhead
  have hparts : other.localParts r = base.localParts r := localParts_congr hs
  rw [localTarget_of_path ho hr (hparts ▸ hpath), localTarget_of_path hb hr hpath, hparts,
    mergedPath_eq_of_head? hhead other.path base.path, hs, ha]

/-- A rooted reference leads to the same place from all bases of one origin. -/
theorem IsBase.destination_congr_of_rooted (ho : other.IsBase) (hb : base.IsBase)
    (ha : other.authority = base.authority) (hp : r.path.head? = some '/') :
    other.destination r = base.destination r := by
  by_cases hr : r.authority = []
  · by_cases h : base.SharesScheme r
    · rw [destination_of_local ((sharesScheme_congr hs).mpr h) hr, destination_of_local h hr]
      exact localTarget_congr_of_rooted hs ho.not_mem hb.not_mem ha hr hp
    · rw [destination_of_other (mt (sharesScheme_congr hs).mp h), destination_of_other h]
  · exact destination_congr_of_absolute hs (Or.inl hr)

end

end Uri

/-! ## At mounts -/

/-- Resolving a reference at a mount fails exactly when the reference cannot be read, and then
for the same fault. The base that is written out for it is always read, and so is the text that
the two are joined to. -/
theorem resolve_eq_error_iff {source : Source} (hsource : source.IsWritten) {m : Mount}
    (hm : Mount.ofSource (some source) = .ok m) (reference : Text) :
    (∀ fault, m.resolve reference = .error fault ↔ Uri.split reference = .error fault) ∧
      Uri.split m.base.forJoining.render = .ok m.base.forJoining ∧
      ∀ joined, join m.base.forJoining.render reference = .ok joined →
        ∃ y, Uri.split joined = .ok y := by
  have hbase := Mount.isBase hsource hm
  refine ⟨fun fault => ?_, hbase.forJoining.split_render, fun joined hj => ?_⟩
  · rw [Mount.resolve_eq_map hbase]
    cases Uri.split reference <;> simp only [Except.map, reduceCtorEq, Except.error.injEq]
  · exact hbase.forJoining.exists_split_of_join rfl m.base.isRelative_forJoining hj

/-- A dotted address in the brackets of the reference, at a mount with an address in brackets. -/
theorem resolve_eq_error_iff_of_brackets :
    ∃ m, Mount.ofSource (some (.text " App://u@[::1]:1/a;b//?q".toList)) = .ok m ∧
      m.resolve "//x@[1.2.3.4]/../b".toList = .error .dottedAddress ∧
      Uri.split m.base.forJoining.render = .ok m.base.forJoining := by
  let m : Mount :=
    ⟨"app".toList, "u@[::1]:1".toList, "/a;b//".toList, by decide, by rfl, by rfl, by rfl⟩
  have hm : Mount.ofSource (some (.text " App://u@[::1]:1/a;b//?q".toList)) = .ok m := by rfl
  have hfault : Uri.split "//x@[1.2.3.4]/../b".toList = .error .dottedAddress := by rfl
  obtain ⟨hiff, hbase, -⟩ := resolve_eq_error_iff (Source.isWritten_text _) hm
    "//x@[1.2.3.4]/../b".toList
  exact ⟨m, hm, (hiff _).mpr hfault, hbase⟩

/-- At mounts of one scheme a reference with an authority, or with another scheme, leads to the
same place, whatever their authorities and their paths are; and at mounts of one origin so does
every reference with a rooted path. -/
theorem exists_resolve_eq_of_scheme_eq {a b : Source} (ha : a.IsWritten) (hb : b.IsWritten)
    {m n : Mount} (hm : Mount.ofSource (some a) = .ok m) (hn : Mount.ofSource (some b) = .ok n)
    (hscheme : m.scheme = n.scheme) {reference : Text} {r : Uri}
    (hr : Uri.split reference = .ok r) :
    (r.authority ≠ [] ∨ r.scheme ≠ [] ∧ r.scheme ≠ m.scheme →
      ∃ y, m.resolve reference = .ok y ∧ n.resolve reference = .ok y) ∧
    (m.authority = n.authority → r.path.head? = some '/' →
      ∃ y, m.resolve reference = .ok y ∧ n.resolve reference = .ok y) := by
  have hmBase := Mount.isBase ha hm
  have hnBase := Mount.isBase hb hn
  have hs : n.base.scheme = m.base.scheme := hscheme.symm
  rw [Mount.resolve_eq_map hmBase, Mount.resolve_eq_map hnBase, hr]
  refine ⟨fun habsolute => ⟨_, rfl, ?_⟩, fun hauthority hrooted => ⟨_, rfl, ?_⟩⟩
  · exact congrArg Except.ok (Uri.destination_congr_of_absolute hs habsolute)
  · exact congrArg Except.ok
      (Uri.IsBase.destination_congr_of_rooted hs hnBase hmBase hauthority.symm hrooted)

/-- A reference with an authority at mounts of different authorities, and a rooted one that
leaves the root at mounts of different paths. -/
theorem exists_resolve_eq_of_scheme_eq_past_root :
    ∃ m n k, Mount.ofSource (some (.text " App://u@H:1/a;b//?q".toList)) = .ok m ∧
      Mount.ofSource (some (.text "app://X/../c".toList)) = .ok n ∧
      Mount.ofSource (some (.text "app://u@H:1".toList)) = .ok k ∧
      (∃ y, m.resolve "//Y/../d;?e".toList = .ok y ∧ n.resolve "//Y/../d;?e".toList = .ok y) ∧
      ∃ y, m.resolve "/../d;e/..;f#g".toList = .ok y ∧
        k.resolve "/../d;e/..;f#g".toList = .ok y := by
  let m : Mount :=
    ⟨"app".toList, "u@H:1".toList, "/a;b//".toList, by decide, by rfl, by rfl, by rfl⟩
  let n : Mount := ⟨"app".toList, "X".toList, "/../c/".toList, by decide, by rfl, by rfl, by rfl⟩
  let k : Mount := ⟨"app".toList, "u@H:1".toList, "/".toList, by decide, by rfl, by rfl, by rfl⟩
  have hm : Mount.ofSource (some (.text " App://u@H:1/a;b//?q".toList)) = .ok m := by rfl
  have hn : Mount.ofSource (some (.text "app://X/../c".toList)) = .ok n := by rfl
  have hk : Mount.ofSource (some (.text "app://u@H:1".toList)) = .ok k := by rfl
  have hnetwork : Uri.split "//Y/../d;?e".toList =
      .ok ⟨[], "Y".toList, "/../d;".toList, "e".toList, []⟩ := by rfl
  have hrooted : Uri.split "/../d;e/..;f#g".toList =
      .ok ⟨[], [], "/../d;e/..;f".toList, [], "g".toList⟩ := by rfl
  have htext := Source.isWritten_text
  exact ⟨m, n, k, hm, hn, hk,
    (exists_resolve_eq_of_scheme_eq (htext _) (htext _) hm hn rfl hnetwork).1 (Or.inl (by decide)),
    (exists_resolve_eq_of_scheme_eq (htext _) (htext _) hm hk rfl hrooted).2 rfl rfl⟩

end UriMount

import UriMount.Proofs.Resolution

/-!
# Joining any reference

A reference may be faulty, or name a scheme or an authority of its own. Joined to a
base without parameters, it uses no more of the base than its scheme, its authority
and the places that paths lead to from the path of the base, as long as the reference
has a path. Bases that agree on these resolve it alike, failures included.
-/

namespace UriMount

open Text Reference

/-- Where neither a path nor parameters remain, there was no path or a lone semicolon. -/
theorem ParamUri.path_of_pathless {u : Uri} (hp : (ofUri u).path = [])
    (hq : (ofUri u).params = []) : u.path = [] ∨ u.path = [';'] := by
  unfold ofUri at hp hq
  split at hp
  · rename_i hparametric
    simp only [hparametric, ite_true] at hq
    obtain ⟨ht, hb⟩ := List.append_eq_nil_iff.mp hp
    have hlast : afterLast '/' u.path = u.path := by
      simpa only [ht, List.nil_append] using throughLast_append_afterLast '/' u.path
    rw [hlast] at hb hq
    by_cases hm : ';' ∈ u.path
    · exact Or.inr (by simpa only [hb, hq, List.nil_append] using (before_append_after hm).symm)
    · exact Or.inl (by rwa [before_of_not_mem hm] at hb)
  · exact Or.inl hp

/-- The target of a reference with a path depends on the base through its authority and
through the places that paths lead to. -/
theorem Reference.target_congr {base other r : ParamUri} (ha : other.authority = base.authority)
    (hm : ∀ path, mergedPath other.path path = mergedPath base.path path)
    (hp : ¬(r.path = [] ∧ r.params = [])) : target other r = target base r := by
  simp only [target, hp, ite_false, ha, hm]

namespace Uri

/-- A URI that takes part in resolving as it is: hosted, clean and without parameters. -/
structure IsBase (u : Uri) : Prop extends u.Hosted, u.Clean where
  /-- The last segment of the path has no parameters. -/
  not_mem : ';' ∉ afterLast '/' u.path

/-- A URI that leads wherever another one of the same origin does. -/
structure LeadsLike (v u : Uri) : Prop where
  /-- The scheme is the same. -/
  scheme_eq : v.scheme = u.scheme
  /-- The authority is the same. -/
  authority_eq : v.authority = u.authority
  /-- A path leads to the same place from both. -/
  mergedPath_eq : ∀ path, mergedPath v.path path = mergedPath u.path path

/-- A reference that is faulty or has a path. A lone semicolon, which announces parameters
and names none, is no path. -/
def IsPathful (reference : Text) : Prop :=
  ∀ r, split reference = .ok r → r.path ≠ [] ∧ r.path ≠ [';']

/-- A base may be lent the stand-in scheme. -/
theorem IsBase.http {u : Uri} (h : u.IsBase) : { u with scheme := Scheme.http }.IsBase :=
  { h with toHosted := h.toHosted.http }

/-- A base is read as it was written. -/
theorem IsBase.split_render {u : Uri} (h : u.IsBase) : split u.render = .ok u := by
  rw [h.toHosted.split_render, h.toClean.reread_eq]

/-- A faulty reference cannot be joined. Any other one is joined to the base as it is, or
stands for itself. -/
theorem IsBase.join_render {u : Uri} (h : u.IsBase) {reference : Text} (hne : reference ≠ []) :
    join u.render reference = (split reference).map fun r =>
      if (inheritScheme u r).scheme = u.scheme ∧ Scheme.isRelative (inheritScheme u r).scheme then
        (target ⟨u, []⟩ (.ofUri (inheritScheme u r))).render
      else reference := by
  simp only [join, h.toHosted.render_ne_nil, hne, ite_false, h.split_render]
  cases split reference with
  | error fault => rfl
  | ok r =>
    simp only [bind, Except.bind, Except.map, pure, Except.pure,
      ParamUri.ofUri_of_not_mem h.not_mem]
    split <;> rfl

section

variable {u v : Uri} (hu : u.IsBase) (hv : v.IsBase) (h : v.LeadsLike u) {reference : Text}
  (hr : IsPathful reference)
include hu hv h hr

/-- A reference with a path is joined alike to bases that lead alike. -/
theorem LeadsLike.join_render : join v.render reference = join u.render reference := by
  have hne : reference ≠ [] := by
    rintro rfl
    exact (hr _ split_nil).1 rfl
  rw [hu.join_render hne, hv.join_render hne]
  cases hs : split reference with
  | error fault => rfl
  | ok r =>
    obtain ⟨hpath, hmark⟩ := hr r hs
    have hi : inheritScheme v r = inheritScheme u r := by
      simp only [inheritScheme, h.scheme_eq]
    have hp : ¬((ParamUri.ofUri (inheritScheme u r)).path = [] ∧
        (ParamUri.ofUri (inheritScheme u r)).params = []) := by
      rintro ⟨hp, hq⟩
      have hs : (inheritScheme u r).path = r.path := by
        unfold inheritScheme
        split <;> rfl
      rcases ParamUri.path_of_pathless hp hq with hn | hn
      · exact hpath (hs ▸ hn)
      · exact hmark (hs ▸ hn)
    have ht : target ⟨v, []⟩ (.ofUri (inheritScheme u r)) =
        target ⟨u, []⟩ (.ofUri (inheritScheme u r)) :=
      target_congr h.authority_eq h.mergedPath_eq hp
    simp only [Except.map, hi, h.scheme_eq, ht]

/-- A reference with a path is resolved alike at bases that lead alike. -/
theorem LeadsLike.resolve_eq : v.resolve reference = u.resolve reference := by
  have hlent : { v with scheme := Scheme.http }.LeadsLike { u with scheme := Scheme.http } :=
    { h with scheme_eq := rfl }
  simp only [resolve, h.scheme_eq, h.join_render hu hv hr, hlent.join_render hu.http hv.http hr]

end

end Uri

end UriMount

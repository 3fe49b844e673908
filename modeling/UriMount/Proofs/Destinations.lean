import UriMount.Proofs.Schemes

/-!
# Where references lead

Every reference has one destination, told from its components and the base: a reference of
another scheme stands for itself, one with an authority keeps it under the scheme of the base,
and any other leads to its target below the base. At a mount, resolving is reading the reference
and going to its destination, so it fails where reading fails and nowhere else.
-/

namespace UriMount

open Text Reference

namespace Uri

/-- A reference that is resolved under the scheme of the base: it names none, or it names that
of the base, and that has relative references. -/
def SharesScheme (base r : Uri) : Prop :=
  r.scheme = [] ∨ r.scheme = base.scheme ∧ Scheme.isRelative base.scheme = true

instance (base r : Uri) : Decidable (base.SharesScheme r) :=
  inferInstanceAs (Decidable (r.scheme = [] ∨ _ ∧ _))

/-- The URI that a reference leads to from a base. -/
def destination (base r : Uri) : Uri :=
  if base.SharesScheme r then
    if r.authority = [] then base.localTarget r else base.networkTarget r
  else r

theorem destination_of_local {base r : Uri} (h : base.SharesScheme r) (ha : r.authority = []) :
    base.destination r = base.localTarget r := by
  rw [destination, if_pos h, if_pos ha]

theorem destination_of_authority {base r : Uri} (h : base.SharesScheme r)
    (ha : r.authority ≠ []) : base.destination r = base.networkTarget r := by
  rw [destination, if_pos h, if_neg ha]

theorem destination_of_other {base r : Uri} (h : ¬base.SharesScheme r) :
    base.destination r = r := if_neg h

/-- Under the scheme of the base the destination has it too. -/
theorem destination_scheme {base r : Uri} (h : base.SharesScheme r) :
    (base.destination r).scheme = base.scheme := by
  by_cases ha : r.authority = []
  · rw [destination_of_local h ha]
    rfl
  · rw [destination_of_authority h ha]
    rfl

/-- Under the scheme of the base the destination has the authority of the reference, or that
of the base where the reference names none. -/
theorem destination_authority {base r : Uri} (h : base.SharesScheme r) :
    (base.destination r).authority = if r.authority = [] then base.authority else r.authority := by
  by_cases ha : r.authority = []
  · rw [destination_of_local h ha, if_pos ha]
    rfl
  · rw [destination_of_authority h ha, if_neg ha, networkTarget_authority]

/-- A destination with an authority is hosted, if the reference was read. -/
theorem IsBase.hosted_destination {u r : Uri} (h : u.IsBase) {reference : Text}
    (hr : split reference = .ok r) (ha : (u.destination r).authority ≠ []) :
    (u.destination r).Hosted := by
  unfold destination at ha ⊢
  split at ha
  · rename_i hs
    simp only [if_pos hs]
    split
    · exact h.toHosted.localTarget r
    · rename_i hn
      exact h.toHosted.networkTarget (hosted_of_split hr hn)
  · rename_i hs
    simp only [if_neg hs]
    exact hosted_of_split hr ha

/-- A destination is clean, if the reference was read. -/
theorem IsBase.clean_destination {u r : Uri} (h : u.IsBase) {reference : Text}
    (hr : split reference = .ok r) : (u.destination r).Clean := by
  have hclean := clean_of_split hr
  unfold destination
  split
  · split
    · rename_i ha
      exact h.toClean.localTarget hclean ha
    · exact hclean.networkTarget u
  · exact hclean

/-! ## Going to the destination -/

section

variable {u r : Uri} (h : u.IsBase) {reference : Text} (hr : split reference = .ok r)
include h hr

/-- A reference that spells out the scheme of the base is joined to it like one that does not. -/
theorem IsBase.split_join_render_of_scheme (hs : r.scheme = u.scheme) (ha : r.authority = [])
    (hrel : Scheme.isRelative u.scheme = true) (hne : reference ≠ []) :
    (do split (← join u.render reference)) = .ok (u.localTarget r) := by
  have hparts (v : Uri) : .ofUri { v with scheme := u.scheme } = u.localParts v := by
    rw [localParts, Scheme.forReferences_of_isRelative hrel]
  have hbase : (⟨u, []⟩ : ParamUri) = u.localParts u := by
    rw [localParts_of_not_mem u h.not_mem, Scheme.forReferences_of_isRelative hrel]
  rw [h.join_render hne, hr]
  simp only [Except.map, inheritScheme_eq (Or.inr hs), hrel, and_self, ite_true, bind, Except.bind,
    hparts, hbase]
  exact split_render_target h.toHosted h.toClean hrel (clean_of_split hr) ha

/-- A reference of the scheme of the base leads to its destination. -/
theorem IsBase.resolve_of_scheme (hs : r.scheme = u.scheme)
    (hrel : Scheme.isRelative u.scheme = true) (hne : reference ≠ []) :
    u.resolve reference = .ok (u.destination r) := by
  have hshares : u.SharesScheme r := Or.inr ⟨hs, hrel⟩
  rw [resolve, if_pos hrel]
  by_cases ha : r.authority = []
  · rw [destination_of_local hshares ha]
    exact h.split_join_render_of_scheme hr hs ha hrel hne
  · rw [destination_of_authority hshares ha]
    exact h.split_join_render_of_authority hr ha (Or.inr hs) hrel

/-- A reference of another scheme leads to itself. -/
theorem IsBase.resolve_of_other (hs : ¬u.SharesScheme r) (hne : reference ≠ []) :
    u.resolve reference = .ok r := by
  obtain ⟨hscheme, hother⟩ := not_or.mp hs
  unfold resolve
  split
  · rename_i hrel
    have hi : inheritScheme u r = r := if_neg hscheme
    have hn : ¬(r.scheme = u.scheme ∧ Scheme.isRelative r.scheme = true) :=
      fun he => hother ⟨he.1, hrel⟩
    rw [h.join_render hne, hr]
    simp only [Except.map, hi, hn, ite_false, bind, Except.bind, hr]
  · simp only [hr, bind, Except.bind, ne_eq, hscheme, not_false_eq_true, ite_true, pure,
      Except.pure]

end

/-- A reference is read and leads to its destination, or it is faulty and refused for its own
fault. -/
theorem IsBase.resolve_eq_map {u : Uri} (h : u.IsBase) (hf : u.fragment = []) (reference : Text) :
    u.resolve reference = (split reference).map u.destination := by
  by_cases hne : reference = []
  · subst hne
    have hempty : u.localTarget ⟨[], [], [], [], []⟩ = u := by
      rw [localTarget_of_pathless h.not_mem rfl h.path_isRooted
        (by rw [localParts_of_not_mem u List.not_mem_nil]; exact ⟨rfl, rfl⟩), if_pos rfl, ← hf]
    rw [h.toHosted.resolve_nil, h.toClean.reread_eq, split_nil, Except.map,
      destination_of_local (Or.inl rfl) rfl, hempty]
  · cases hr : split reference with
    | error fault => rw [h.resolve_of_error hr, Except.map]
    | ok r =>
      rw [Except.map]
      by_cases hshares : u.SharesScheme r
      · rcases hshares with hs | ⟨hs, hrel⟩
        · by_cases ha : r.authority = []
          · rw [h.toHosted.resolve_of_isLocal ⟨hr, hs, ha⟩ hne, h.toClean.reread_eq,
              destination_of_local (Or.inl hs) ha]
          · rw [h.resolve_of_authority hr ha hs, destination_of_authority (Or.inl hs) ha]
        · exact h.resolve_of_scheme hr hs hrel hne
      · rw [h.resolve_of_other hr hshares hne, destination_of_other hshares]

end Uri

/-- At a mount a reference is read and leads to its destination from the base. -/
theorem Mount.resolve_eq_map {m : Mount} (h : m.base.IsBase) (reference : Text) :
    m.resolve reference = (Uri.split reference).map m.base.destination :=
  h.resolve_eq_map rfl reference

/-- A reference leads somewhere exactly when it is read, and then to its destination. -/
theorem Mount.resolve_eq_ok_iff {m : Mount} (h : m.base.IsBase) {reference : Text} {y : Uri} :
    m.resolve reference = .ok y ↔
      ∃ r, Uri.split reference = .ok r ∧ m.base.destination r = y := by
  rw [resolve_eq_map h]
  cases Uri.split reference <;> simp [Except.map]

end UriMount

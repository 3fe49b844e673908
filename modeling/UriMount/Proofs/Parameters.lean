import UriMount.Proofs.Acceptance

/-!
# Components with parameters

Components with parameters are written out and read again. Where every component is of the form
that reading gives, nothing is lost by that: the parameters are found behind a semicolon at the
end of the path, and all other components are found as they were.
-/

namespace UriMount

open Text

namespace Scheme

/-- A character behind the first one of a scheme in lower case. -/
def IsLowerChar (c : Char) : Prop := c.isLower = true ∨ c.isDigit = true ∨ c ∈ ['+', '-', '.']

/-- A scheme in lower case: a lower-case letter followed by lower-case letters, digits, plus
signs, hyphens and points. -/
def IsLower (scheme : Text) : Prop :=
  ∃ first others, scheme = first :: others ∧ first.isLower = true ∧ ∀ c ∈ others, IsLowerChar c

/-- Lower case leaves such a character as it is. -/
theorem IsLowerChar.toLower_eq {c : Char} (h : IsLowerChar c) : c.toLower = c := by
  rcases h with h | h | h
  · exact Char.toLower_eq_of_not_isUpper (Char.not_isUpper_of_isLower h)
  · exact toLower_of_isDigit h
  · simp only [List.mem_cons, List.not_mem_nil, or_false] at h
    rcases h with rfl | rfl | rfl <;> decide

/-- A scheme in lower case is read as it is. -/
theorem IsLower.isRead {scheme : Text} (h : IsLower scheme) : IsRead scheme := by
  obtain ⟨first, others, rfl, hfirst, hothers⟩ := h
  have hlower : ∀ c ∈ first :: others, IsLowerChar c :=
    List.forall_mem_cons.mpr ⟨Or.inl hfirst, hothers⟩
  refine ⟨isScheme_cons_iff.mpr ⟨?_, fun c hc => ?_⟩, ?_⟩
  · rw [Char.isAlpha, hfirst, Bool.or_true]
  · rcases hothers c hc with h | h | h
    · left
      rw [Char.isAlphanum, Char.isAlpha, h, Bool.or_true, Bool.true_or]
    · left
      rw [Char.isAlphanum, h, Bool.or_true]
    · right
      simpa only [List.mem_cons, List.not_mem_nil, or_false] using h
  · exact (List.map_congr_left fun c hc => (hlower c hc).toLower_eq).trans (List.map_id _)

end Scheme

namespace ParamUri

/-- Components with parameters, each of the form that reading gives. -/
structure IsProper (u : ParamUri) : Prop where
  /-- The scheme is missing or in lower case. -/
  scheme_isLower : u.scheme = [] ∨ Scheme.IsLower u.scheme
  /-- There is an authority. -/
  authority_ne_nil : u.authority ≠ []
  /-- No mark in the authority ends it. -/
  not_mem_authority : ∀ c ∈ ['/', '?', '#'], c ∉ u.authority
  /-- Nothing is wrong with the authority. -/
  fault : Authority.fault? u.authority = none
  /-- The path is empty or starts with a slash. -/
  path_isRooted : u.path = [] ∨ u.path.head? = some '/'
  /-- There are parameters behind a path only. -/
  params_eq_nil : u.path = [] → u.params = []
  /-- No mark ends the path or its parameters. -/
  not_mem_path : ∀ c ∈ ['?', '#'], c ∉ u.path ++ u.params
  /-- No mark ends the query. -/
  not_mem_query : '#' ∉ u.query
  /-- No tab and no line break stands in any component. -/
  not_mem : ∀ c ∈ ['\t', '\r', '\n'],
    c ∉ u.scheme ++ u.authority ++ u.path ++ u.params ++ u.query ++ u.fragment

namespace IsProper

variable {u : ParamUri} (h : u.IsProper)
include h

/-- Nothing in a component is passed over. -/
theorem isSkipped_of_mem {c : Char}
    (hc : c ∈ u.scheme ++ u.authority ++ u.path ++ u.params ++ u.query ++ u.fragment) :
    Uri.isSkipped c = false := by
  have hnot : c ∉ ['\t', '\r', '\n'] := fun hmark => h.not_mem c hmark hc
  simpa only [Uri.isSkipped, Bool.or_eq_false_iff, beq_eq_false_iff_ne, List.mem_cons,
    List.not_mem_nil, or_false, not_or, and_assoc] using hnot

/-- Proper components name an origin as it is read. -/
theorem isOrigin : IsOrigin u.scheme u.authority where
  scheme_isRead := h.scheme_isLower.imp_right Scheme.IsLower.isRead
  authority_ne_nil := h.authority_ne_nil
  of_mem_authority := by
    intro c hc
    have hnot : c ∉ ['/', '?', '#'] := fun hmark => h.not_mem_authority c hmark hc
    refine ⟨?_, h.isSkipped_of_mem (by simp only [List.mem_append, hc, true_or, or_true])⟩
    simpa only [Authority.isEnd, Bool.or_eq_false_iff, beq_eq_false_iff_ne, List.mem_cons,
      List.not_mem_nil, or_false, not_or, and_assoc] using hnot
  fault := h.fault

/-- With its parameters put back, the path is still rooted. -/
theorem hosted_flatten : u.flatten.Hosted where
  toIsOrigin := h.isOrigin
  path_isRooted := by
    rcases h.path_isRooted with hp | hp
    · left
      change u.path ++ marked ';' u.params = []
      rw [hp, h.params_eq_nil hp]
      rfl
    · right
      exact List.mem_head?_append_of_mem_head? hp

/-- With its parameters put back, the path still ends where it is cut. -/
theorem clean_flatten : u.flatten.Clean where
  of_mem_path := by
    intro c hc
    by_cases hsemicolon : c = ';'
    · rw [hsemicolon]
      decide
    · have hm : c ∈ u.path ++ u.params := by
        rcases List.mem_append.mp hc with hc | hc
        · exact List.mem_append_left _ hc
        · exact List.mem_append_right _ ((mem_marked hc).resolve_left hsemicolon)
      have hnot : c ∉ ['?', '#'] := fun hmark => h.not_mem_path c hmark hm
      simp only [List.mem_cons, List.not_mem_nil, or_false, not_or] at hnot
      refine ⟨hnot.1, hnot.2, h.isSkipped_of_mem ?_⟩
      rcases List.mem_append.mp hm with hm | hm <;>
        simp only [List.mem_append, hm, true_or, or_true]
  of_mem_query := by
    intro c hc
    refine ⟨fun hmark => h.not_mem_query (hmark ▸ hc), h.isSkipped_of_mem ?_⟩
    exact List.mem_append_left _ (List.mem_append_right _ hc)
  of_mem_fragment := fun c hc => h.isSkipped_of_mem (List.mem_append_right _ hc)

end IsProper

end ParamUri

/-- Proper components with parameters are read as they are, with the parameters, if there are
any, behind a semicolon at the end of the path. -/
theorem readUri_params_of_isProper (argument : Text) {u : ParamUri} (h : u.IsProper) :
    readUri argument (some (.params u)) =
      .ok ⟨u.scheme, u.authority, u.path ++ if u.params = [] then [] else ';' :: u.params,
        u.query, u.fragment⟩ := by
  apply readUri_eq_ok_iff.mpr
  calc (Source.params u).uri
      = Uri.split u.flatten.render := rfl
    _ = .ok u.flatten.reread := h.hosted_flatten.split_render
    _ = .ok u.flatten := congrArg Except.ok h.clean_flatten.reread_eq

/-- A port and colons in front of the path and in it, a semicolon in the path besides the one of
the parameters, and marks wherever they may stand. -/
theorem readUri_params_of_isProper_of_marks :
    ∃ u : ParamUri, u.IsProper ∧ u.params ≠ [] ∧
      readUri uriArgument (some (.params u)) =
        .ok ⟨"svn+ssh".toList, "u:p@[::1]:80".toList, "/a;b:c//d;p/;q".toList,
          "x?y//;".toList, "z#?".toList⟩ := by
  let u : ParamUri :=
    ⟨⟨"svn+ssh".toList, "u:p@[::1]:80".toList, "/a;b:c//d".toList, "x?y//;".toList,
      "z#?".toList⟩, "p/;q".toList⟩
  have hscheme : Scheme.IsLower u.scheme := by
    refine ⟨'s', ['v', 'n', '+', 's', 's', 'h'], rfl, by decide, ?_⟩
    simp only [List.forall_mem_cons, List.not_mem_nil, false_implies, implies_true, and_true,
      Scheme.IsLowerChar]
    decide
  have hproper : u.IsProper := by
    refine ⟨Or.inr hscheme, by decide, ?_, by rfl, Or.inr rfl, by decide, ?_, by decide, ?_⟩
    all_goals
      simp only [List.forall_mem_cons, List.not_mem_nil, false_implies, implies_true, and_true]
      decide
  exact ⟨u, hproper, by decide, readUri_params_of_isProper uriArgument hproper⟩

end UriMount

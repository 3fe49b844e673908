import UriMount.Source
import UriMount.Proofs.Cuts
import Mathlib

/-!
# What reading gives, and reading what was written

A written URI with an authority opens with its scheme and its authority. Reading
finds both again, whatever follows: the remaining text is only cut into path,
query and fragment. Components that reading can give are read back unchanged.
-/

namespace UriMount

open Text

/-- A scheme as it is read: well-formed and in lower case. -/
def Scheme.IsRead (scheme : Text) : Prop :=
  isScheme scheme = true ∧ scheme.map Char.toLower = scheme

/-- A scheme, possibly empty, and an authority as they are read. -/
structure IsOrigin (scheme authority : Text) : Prop where
  /-- The scheme is missing or as it is read. -/
  scheme_isRead : scheme = [] ∨ Scheme.IsRead scheme
  /-- There is an authority. -/
  authority_ne_nil : authority ≠ []
  /-- Nothing in the authority ends it or is passed over. -/
  of_mem_authority : ∀ c ∈ authority, Authority.isEnd c = false ∧ Uri.isSkipped c = false
  /-- Nothing is wrong with the authority. -/
  fault : Authority.fault? authority = none

/-- A text that can stand behind an authority: it starts with an end character, if at all. -/
def Authority.IsRest (t : Text) : Prop := ∀ c, t.head? = some c → isEnd c = true

/-- A path that can stand behind an authority: empty or with a slash in front. -/
def IsRooted (path : Text) : Prop := path = [] ∨ path.head? = some '/'

/-- The start of a rooted path is rooted. -/
theorem IsRooted.of_isPrefix {p path : Text} (h : IsRooted path) (hp : p <+: path) :
    IsRooted p := by
  cases p with
  | nil => exact Or.inl rfl
  | cons c p =>
    obtain ⟨s, rfl⟩ := hp
    rcases h with h | h
    · cases h
    · exact Or.inr h

/-- The start of a text that can stand behind an authority can do so too. -/
theorem Authority.IsRest.of_isPrefix {s t : Text} (h : IsRest t) (hs : s <+: t) : IsRest s := by
  intro c hc
  obtain ⟨r, rfl⟩ := hs
  exact h c (List.mem_head?_append_of_mem_head? hc)

/-- A rooted path can stand behind an authority. -/
theorem IsRooted.isRest {path : Text} (h : IsRooted path) : Authority.IsRest path := by
  intro c hc
  rcases h with h | h
  · rw [h] at hc
    cases hc
  · rw [h] at hc
    cases hc
    rfl

/-- A path with a slash put in front where none is. -/
theorem isRooted_rooted (path : Text) : IsRooted (Uri.rooted path) := by
  unfold Uri.rooted
  split
  · assumption
  · exact Or.inr rfl

theorem Uri.rooted_of_isRooted {path : Text} (h : IsRooted path) : Uri.rooted path = path :=
  if_pos h

/-- A path that is there starts with a slash when it is rooted. -/
theorem Uri.head?_rooted {path : Text} (h : path ≠ []) : (rooted path).head? = some '/' := by
  unfold rooted
  split
  · rename_i hp
    exact hp.resolve_left h
  · rfl

theorem Uri.mem_rooted {path : Text} {c : Char} (h : c ∈ rooted path) : c = '/' ∨ c ∈ path := by
  unfold rooted at h
  split at h
  · exact Or.inr h
  · exact List.mem_cons.mp h

/-- A URI with an authority, a rooted path and any query and fragment. -/
structure Uri.Hosted (u : Uri) : Prop extends IsOrigin u.scheme u.authority where
  /-- The path is empty or starts with a slash. -/
  path_isRooted : IsRooted u.path

/-- The path, the query and the fragment hold no mark that would cut them and
nothing that is passed over. -/
structure Uri.Clean (u : Uri) : Prop where
  /-- The path ends in front of the first question mark or number sign. -/
  of_mem_path : ∀ c ∈ u.path, c ≠ '?' ∧ c ≠ '#' ∧ isSkipped c = false
  /-- The query ends in front of the first number sign. -/
  of_mem_query : ∀ c ∈ u.query, c ≠ '#' ∧ isSkipped c = false
  /-- The fragment runs to the end. -/
  of_mem_fragment : ∀ c ∈ u.fragment, isSkipped c = false

/-! ## Characters -/

/-- The numbers of the letters. -/
theorem Text.toNat_of_isAlpha {c : Char} (h : c.isAlpha = true) :
    65 ≤ c.toNat ∧ c.toNat ≤ 90 ∨ 97 ≤ c.toNat ∧ c.toNat ≤ 122 := by
  simpa only [Char.isAlpha, Char.isUpper, Char.isLower, Bool.or_eq_true, Bool.and_eq_true,
    decide_eq_true_eq, UInt32.le_iff_toNat_le, ge_iff_le, Char.reduceVal, UInt32.reduceToNat,
    Char.toNat_val] using h

/-- A digit is its own lower case. -/
theorem Text.toLower_of_isDigit {c : Char} (h : c.isDigit = true) : c.toLower = c := by
  apply Char.toLower_eq_of_not_isUpper
  simp only [Char.isDigit, Char.isUpper, Bool.and_eq_true, decide_eq_true_eq,
    UInt32.le_iff_toNat_le, ge_iff_le, Char.reduceVal, UInt32.reduceToNat] at h ⊢
  omega

/-- A letter is no blank. -/
theorem Text.isBlank_of_isAlpha {c : Char} (h : c.isAlpha = true) : isBlank c = false := by
  have hapart : ∀ r ∈ blankRanges, r.2 < 65 ∨ 122 < r.1 := by decide
  have hc := toNat_of_isAlpha h
  rw [isBlank, ← Bool.not_eq_true, Ranges.contains_iff]
  rintro ⟨r, hr, hfirst, hlast⟩
  have hr := hapart r hr
  omega

namespace Scheme

/-- No delimiter and nothing that is passed over stands in a scheme. -/
theorem ne_of_isSchemeChar {c d : Char} (h : isSchemeChar c = true)
    (hd : isSchemeChar d = false) : c ≠ d := by
  rintro rfl
  rw [h] at hd
  cases hd

theorem isSkipped_of_isSchemeChar {c : Char} (h : isSchemeChar c = true) :
    Uri.isSkipped c = false := by
  simp only [Uri.isSkipped, Bool.or_eq_false_iff, beq_eq_false_iff_ne]
  exact ⟨⟨ne_of_isSchemeChar h (by decide), ne_of_isSchemeChar h (by decide)⟩,
    ne_of_isSchemeChar h (by decide)⟩

theorem isSchemeChar_toLower {c : Char} (h : isSchemeChar c = true) :
    isSchemeChar c.toLower = true := by
  simp only [isSchemeChar, Char.isAlphanum, Bool.or_eq_true, beq_iff_eq] at h
  rcases h with (((h | h) | rfl) | rfl) | rfl
  · simp only [isSchemeChar, Char.isAlphanum, Char.isAlpha_toLower_eq_isAlpha, h, Bool.true_or]
  · rw [toLower_of_isDigit h]
    simp only [isSchemeChar, Char.isAlphanum, h, Bool.or_true, Bool.true_or]
  all_goals decide

/-- A well-formed scheme is well-formed in lower case, and lower case changes it no more. -/
theorem isRead_map_toLower {scheme : Text} (h : isScheme scheme = true) :
    IsRead (scheme.map Char.toLower) := by
  simp only [isScheme, Bool.and_eq_true, List.all_eq_true] at h
  refine ⟨?_, ?_⟩
  · simp only [isScheme, Bool.and_eq_true, List.all_eq_true, List.head?_map, Option.any_map,
      List.mem_map, forall_exists_index, and_imp, forall_apply_eq_imp_iff₂]
    refine ⟨?_, fun c hc => isSchemeChar_toLower (h.2 c hc)⟩
    simpa only [Function.comp_def, Char.isAlpha_toLower_eq_isAlpha] using h.1
  · simp only [List.map_map, Function.comp_def, Char.toLower_toLower_eq_toLower]

/-- A scheme is there: it starts with a letter. -/
theorem exists_cons_of_isScheme {scheme : Text} (h : isScheme scheme = true) :
    ∃ c t, scheme = c :: t ∧ c.isAlpha = true := by
  cases scheme with
  | nil => cases h
  | cons c t =>
    simp only [isScheme, List.head?_cons, Option.any_some, Bool.and_eq_true] at h
    exact ⟨c, t, rfl, h.1⟩

theorem isSchemeChar_of_mem {scheme : Text} (h : isScheme scheme = true) {c : Char}
    (hc : c ∈ scheme) : isSchemeChar c = true := by
  simp only [isScheme, Bool.and_eq_true, List.all_eq_true] at h
  exact h.2 c hc

/-- A scheme that stands in front of a colon is found in lower case. -/
theorem cut_append_colon_of_isScheme {scheme : Text} (h : isScheme scheme = true) (t : Text) :
    cut (scheme ++ ':' :: t) = (scheme.map Char.toLower, t) := by
  have hc : ':' ∉ scheme := fun hm =>
    ne_of_isSchemeChar (isSchemeChar_of_mem h hm) (by decide) rfl
  have ho : opens (scheme ++ ':' :: t) = true := by
    simp only [opens, before_append hc, before_cons_self, List.append_nil, h, Bool.and_true,
      List.contains_eq_mem, List.mem_append, List.mem_cons, true_or, or_true, decide_true]
  simp only [cut, ho, ite_true, before_append hc, after_append hc, before_cons_self,
    after_cons_self, List.append_nil]

/-- A scheme as it is read is found again in front of a colon. -/
theorem cut_append_colon {scheme : Text} (h : IsRead scheme) (t : Text) :
    cut (scheme ++ ':' :: t) = (scheme, t) := by
  rw [cut_append_colon_of_isScheme h.1, h.2]

/-- A text without a colon opens with no scheme. -/
theorem opens_of_not_mem {t : Text} (h : ':' ∉ t) : opens t = false := by
  rw [opens, Bool.and_eq_false_iff, ← Bool.not_eq_true, List.contains_iff_mem]
  exact Or.inl h

/-- A text from which no scheme is cut opens with none. -/
theorem opens_of_cut_fst_eq_nil {t : Text} (h : (cut t).1 = []) : opens t = false := by
  by_contra ho
  rw [Bool.not_eq_false] at ho
  simp only [cut, ho, ite_true, List.map_eq_nil_iff] at h
  simp only [opens, h, Bool.and_eq_true] at ho
  exact absurd ho.2 (by decide)

/-- A text that starts with a slash opens with no scheme. -/
theorem opens_cons_slash (t : Text) : opens ('/' :: t) = false := by
  simp [opens, before, isScheme]

/-- A scheme is missing or as it is read. -/
theorem isRead_cut (t : Text) : (cut t).1 = [] ∨ IsRead (cut t).1 := by
  unfold cut
  split
  · rename_i h
    simp only [opens, Bool.and_eq_true] at h
    exact Or.inr (isRead_map_toLower h.2)
  · exact Or.inl rfl

theorem mem_of_mem_cut_snd {t : Text} {c : Char} (h : c ∈ (cut t).2) : c ∈ t := by
  unfold cut at h
  split at h
  · exact mem_of_mem_after h
  · exact h

end Scheme

namespace Authority

/-- An authority between two slashes and an end character is found again. -/
theorem cut_append {authority rest : Text} (h : ∀ c ∈ authority, isEnd c = false)
    (hr : IsRest rest) :
    cut ('/' :: '/' :: (authority ++ rest)) = (authority, rest) := by
  have ha : ∀ c ∈ authority, (!isEnd c) = true := fun c hc => by rw [h c hc]; rfl
  rw [cut, List.takeWhile_append_of_pos ha, List.dropWhile_append_of_pos ha]
  cases rest with
  | nil => simp only [List.takeWhile_nil, List.dropWhile_nil, List.append_nil]
  | cons c rest =>
    have hc : (!isEnd c) = false := by rw [hr c List.head?_cons]; rfl
    simp only [List.takeWhile_cons, List.dropWhile_cons, hc, Bool.false_eq_true, ite_false,
      List.append_nil]

/-- Nothing in an authority that was cut ends it. -/
theorem isEnd_of_mem_cut {t : Text} {c : Char} (h : c ∈ (cut t).1) : isEnd c = false := by
  unfold cut at h
  split at h
  · simpa only [Bool.not_eq_true'] using List.mem_takeWhile_imp h
  · cases h

/-- An authority that was cut ends at an end character or with the text. -/
theorem isRest_cut {t : Text} (ha : (cut t).1 ≠ []) : IsRest (cut t).2 := by
  intro c h
  unfold cut at ha h
  split at h
  · rename_i r
    have hd := List.head?_dropWhile_not (!isEnd ·) r
    rw [h] at hd
    simpa only [Bool.not_eq_false'] using hd
  · rename_i hn
    split at ha
    · rename_i r
      exact absurd rfl (hn r)
    · exact absurd rfl ha

/-- An end character is never passed over. -/
theorem isSkipped_of_isEnd {c : Char} (h : isEnd c = true) : Uri.isSkipped c = false := by
  simp only [isEnd, Bool.or_eq_true, beq_iff_eq] at h
  rcases h with (rfl | rfl) | rfl <;> rfl

/-- Passing over characters keeps the end character in front. -/
theorem IsRest.filter {t : Text} (h : IsRest t) : IsRest (t.filter (!Uri.isSkipped ·)) := by
  cases t with
  | nil => exact h
  | cons d t =>
    intro c hc
    have hd : isEnd d = true := h d List.head?_cons
    rw [List.filter_cons_of_pos (by rw [isSkipped_of_isEnd hd]; rfl)] at hc
    cases hc
    exact hd

theorem mem_of_mem_cut_fst {t : Text} {c : Char} (h : c ∈ (cut t).1) : c ∈ t := by
  unfold cut at h
  split at h
  · exact List.mem_cons_of_mem _ (List.mem_cons_of_mem _ (List.takeWhile_subset _ h))
  · cases h

theorem mem_of_mem_cut_snd {t : Text} {c : Char} (h : c ∈ (cut t).2) : c ∈ t := by
  unfold cut at h
  split at h
  · exact List.mem_cons_of_mem _ (List.mem_cons_of_mem _ (List.dropWhile_subset _ h))
  · exact h

end Authority

namespace Uri

/-! ## The text behind the authority -/

/-- The scheme and the authority as they are written in front of the path. -/
def origin (u : Uri) : Text := u.renderScheme ++ '/' :: '/' :: u.authority

/-- The origin is written from the scheme and the authority. -/
theorem origin_congr {u v : Uri} (hs : v.scheme = u.scheme) (ha : v.authority = u.authority) :
    v.origin = u.origin := by
  cases u
  cases v
  cases hs
  cases ha
  rfl

/-- The path, the query and the fragment as they are written behind the authority. -/
def rest (u : Uri) : Text := u.path ++ marked '?' u.query ++ marked '#' u.fragment

/-- The URI whose path, query and fragment are read from a text. -/
def withRest (u : Uri) (t : Text) : Uri :=
  { u with
    path := before '?' (before '#' t)
    query := after '?' (before '#' t)
    fragment := after '#' t }

/-- The URI as it is read behind its written scheme and authority. -/
def reread (u : Uri) : Uri := u.withRest (u.rest.filter (!isSkipped ·))

/-- A hosted URI is written as its origin and the rest. -/
theorem Hosted.render_eq {u : Uri} (h : u.Hosted) : u.render = u.origin ++ u.rest := by
  simp only [render_of_authority h.authority_ne_nil, rooted_of_isRooted h.path_isRooted, origin,
    rest, List.append_assoc, List.cons_append]

/-- The path read from a text in front of which an authority ends is rooted. -/
theorem isRooted_withRest {u : Uri} {t : Text} (h : Authority.IsRest t) :
    IsRooted (u.withRest t).path := by
  cases t with
  | nil => exact Or.inl rfl
  | cons c t =>
    have hc := h c List.head?_cons
    simp only [Authority.isEnd, Bool.or_eq_true, beq_iff_eq] at hc
    rcases hc with (rfl | rfl) | rfl
    · exact Or.inr (by simp [withRest, before])
    · exact Or.inl (by simp [withRest, before])
    · exact Or.inl (by simp [withRest, before])

/-- What is read from a text without anything to pass over is clean. -/
theorem clean_withRest {u : Uri} {t : Text} (h : ∀ c ∈ t, isSkipped c = false) :
    (u.withRest t).Clean where
  of_mem_path c hc := by
    have hb : c ∈ before '#' t := mem_of_mem_before hc
    refine ⟨?_, ?_, h c (mem_of_mem_before hb)⟩
    · rintro rfl
      exact not_mem_before '?' _ hc
    · rintro rfl
      exact not_mem_before '#' t hb
  of_mem_query c hc := by
    have hb : c ∈ before '#' t := mem_of_mem_after hc
    refine ⟨?_, h c (mem_of_mem_before hb)⟩
    rintro rfl
    exact not_mem_before '#' t hb
  of_mem_fragment c hc := h c (mem_of_mem_after hc)

/-- A text without marks is read as a path. -/
theorem withRest_of_not_mem (u : Uri) {t : Text} (hq : '?' ∉ t) (hf : '#' ∉ t) :
    u.withRest t = { u with path := t, query := [], fragment := [] } := by
  simp only [withRest, before_of_not_mem hf, after_of_not_mem hf, before_of_not_mem hq,
    after_of_not_mem hq]

/-- Clean components are read from their own text. -/
theorem Clean.withRest_rest {u : Uri} (h : u.Clean) : u.withRest u.rest = u := by
  have hq : '?' ∉ u.path := fun hm => (h.of_mem_path _ hm).1 rfl
  have hf : '#' ∉ u.path ++ marked '?' u.query := by
    intro hm
    rcases List.mem_append.mp hm with hm | hm
    · exact (h.of_mem_path _ hm).2.1 rfl
    · rcases mem_marked hm with hm | hm
      · cases hm
      · exact (h.of_mem_query _ hm).1 rfl
  simp only [withRest, rest, before_append_marked hf, after_append_marked hf,
    before_append_marked hq, after_append_marked hq]

/-- Nothing in clean components is passed over. -/
theorem Clean.isSkipped_of_mem_rest {u : Uri} (h : u.Clean) {c : Char} (hc : c ∈ u.rest) :
    isSkipped c = false := by
  simp only [rest, List.mem_append] at hc
  rcases hc with (hc | hc) | hc
  · exact (h.of_mem_path c hc).2.2
  · rcases mem_marked hc with rfl | hc
    · rfl
    · exact (h.of_mem_query c hc).2
  · rcases mem_marked hc with rfl | hc
    · rfl
    · exact h.of_mem_fragment c hc

/-- A text without tabs and line breaks is read whole. -/
theorem filter_isSkipped {t : Text} (h : ∀ c ∈ t, isSkipped c = false) :
    t.filter (!isSkipped ·) = t := by
  rw [List.filter_eq_self]
  intro c hc
  rw [h c hc]
  rfl

/-- Clean components do not change when they are read again. -/
theorem Clean.reread_eq {u : Uri} (h : u.Clean) : u.reread = u := by
  rw [reread, filter_isSkipped fun c hc => h.isSkipped_of_mem_rest hc, h.withRest_rest]

/-- What is read again is clean. -/
theorem clean_reread (u : Uri) : u.reread.Clean := by
  apply clean_withRest
  intro c hc
  simpa only [Bool.not_eq_true'] using (List.mem_filter.mp hc).2

/-- Exactly the clean components survive being read again. -/
theorem reread_eq_self_iff {u : Uri} : u.reread = u ↔ u.Clean :=
  ⟨fun h => h ▸ clean_reread u, Clean.reread_eq⟩

/-- A text that can stand behind a path: it starts with the mark of a query or a fragment, if
at all. -/
def IsTail (t : Text) : Prop := ∀ c, t.head? = some c → c = '?' ∨ c = '#'

namespace IsTail

variable {t : Text} (h : IsTail t)
include h

/-- The mark in front of a query or a fragment ends an authority. -/
theorem isRest : Authority.IsRest t := by
  intro c hc
  rcases h c hc with rfl | rfl <;> rfl

/-- The start of a tail is a tail. -/
theorem of_isPrefix {p : Text} (hp : p <+: t) : IsTail p := by
  obtain ⟨r, rfl⟩ := hp
  exact fun c hc => h c (List.mem_head?_append_of_mem_head? hc)

/-- Passing over characters keeps the mark in front. -/
theorem filter : IsTail (t.filter (!isSkipped ·)) := by
  cases t with
  | nil => exact h
  | cons d t =>
    have hd := h d List.head?_cons
    have hkept : isSkipped d = false := by rcases hd with rfl | rfl <;> rfl
    rw [List.filter_cons_of_pos (by rw [hkept]; rfl)]
    rintro c hc
    cases hc
    exact hd

/-- No path is read from a tail. -/
theorem path_withRest (u : Uri) : (u.withRest t).path = [] := by
  cases t with
  | nil => rfl
  | cons c t =>
    rcases h c List.head?_cons with rfl | rfl
    · have hmark : '#' ∉ ['?'] := by decide
      have hcut : before '#' ('?' :: t) = '?' :: before '#' t := before_append hmark t
      simp only [withRest, hcut, before_cons_self]
    · simp only [withRest, before_cons_self, before_nil]

end IsTail

/-- A query and a fragment stand behind a path with their marks in front. -/
theorem isTail_marks (query fragment : Text) :
    IsTail (marked '?' query ++ marked '#' fragment) := by
  intro c h
  unfold marked at h
  split at h
  · split at h
    · cases h
    · exact Or.inr (Option.some.inj h).symm
  · exact Or.inl (Option.some.inj h).symm

/-- The text behind the authority of a hosted URI starts with an end character. -/
theorem Hosted.isRest_rest {u : Uri} (h : u.Hosted) : Authority.IsRest u.rest := by
  intro c hc
  simp only [rest, List.append_assoc] at hc
  rcases h.path_isRooted with hp | hp
  · rw [hp, List.nil_append] at hc
    exact (isTail_marks _ _).isRest c hc
  · rw [List.head?_append, hp] at hc
    cases hc
    rfl

/-! ## Reading behind an origin -/

/-- A character that may lead is not passed over. -/
theorem isSkipped_of_not_isLeading {c : Char} (h : isLeading c = false) : isSkipped c = false := by
  by_contra hs
  simp only [Bool.not_eq_false, isSkipped, Bool.or_eq_true, beq_iff_eq] at hs
  rcases hs with (rfl | rfl) | rfl <;> exact absurd h (by decide)

theorem isLeading_of_isAlpha {c : Char} (h : c.isAlpha = true) : isLeading c = false := by
  have hc := toNat_of_isAlpha h
  simp only [isLeading, decide_eq_false_iff_not]
  omega

/-- A written origin starts with a letter or a slash. -/
theorem exists_cons_of_isOrigin {u : Uri} (h : IsOrigin u.scheme u.authority) :
    ∃ c t, u.origin = c :: t ∧ (c.isAlpha = true ∨ c = '/') := by
  rcases h.scheme_isRead with hs | hs
  · exact ⟨'/', '/' :: u.authority, by simp only [origin, renderScheme, hs, ite_true,
      List.nil_append], Or.inr rfl⟩
  · obtain ⟨c, t, ht, hc⟩ := Scheme.exists_cons_of_isScheme hs.1
    exact ⟨c, t ++ [':'] ++ '/' :: '/' :: u.authority, by simp [origin, renderScheme, ht],
      Or.inl hc⟩

/-- No blanks are trimmed in front of a written origin. -/
theorem dropWhile_isBlank_origin {u : Uri} (h : IsOrigin u.scheme u.authority) (t : Text) :
    (u.origin ++ t).dropWhile isBlank = u.origin ++ t := by
  obtain ⟨c, r, hr, hc⟩ := exists_cons_of_isOrigin h
  apply dropWhile_of_head?
  rw [hr]
  rintro d hd
  cases hd
  rcases hc with hc | rfl
  · exact isBlank_of_isAlpha hc
  · decide

/-- A written origin ends as its authority does. -/
theorem getLast?_origin {u : Uri} (h : u.authority ≠ []) :
    u.origin.getLast? = u.authority.getLast? := by
  rw [origin, List.getLast?_append_of_ne_nil _ (List.cons_ne_nil _ _)]
  cases ha : u.authority with
  | nil => exact absurd ha h
  | cons c t => rw [List.getLast?_cons_cons, List.getLast?_cons_cons]

/-- Nothing in a written scheme is passed over. -/
theorem isSkipped_of_mem_renderScheme {u : Uri} (h : u.scheme = [] ∨ Scheme.IsRead u.scheme)
    {c : Char} (hc : c ∈ u.renderScheme) : isSkipped c = false := by
  rcases h with hs | hs
  · simp only [renderScheme, hs, ite_true] at hc
    cases hc
  · unfold renderScheme at hc
    split at hc
    · cases hc
    · rcases List.mem_append.mp hc with hc | hc
      · exact Scheme.isSkipped_of_isSchemeChar (Scheme.isSchemeChar_of_mem hs.1 hc)
      · rw [List.mem_singleton.mp hc]
        rfl

/-- A written scheme is found again, and so is its absence in front of a text that opens
with none. -/
theorem cut_renderScheme_append {u : Uri} (h : u.scheme = [] ∨ Scheme.IsRead u.scheme)
    {t : Text} (ht : u.scheme = [] → Scheme.opens t = false) :
    Scheme.cut (u.renderScheme ++ t) = (u.scheme, t) := by
  by_cases hs : u.scheme = []
  · simp only [renderScheme, hs, ite_true, List.nil_append]
    exact Scheme.cut_of_not_opens (ht hs)
  · simp only [renderScheme, hs, ite_false, List.append_assoc, List.singleton_append]
    exact Scheme.cut_append_colon (h.resolve_left hs) t

/-- Nothing in a written origin is passed over. -/
theorem isSkipped_of_mem_origin {u : Uri} (h : IsOrigin u.scheme u.authority) {c : Char}
    (hc : c ∈ u.origin) : isSkipped c = false := by
  rcases List.mem_append.mp hc with hc | hc
  · exact isSkipped_of_mem_renderScheme h.scheme_isRead hc
  · rcases List.mem_cons.mp hc with rfl | hc
    · rfl
    · rcases List.mem_cons.mp hc with rfl | hc
      · rfl
      · exact (h.of_mem_authority c hc).2

/-- The characters that are read behind an origin. -/
theorem significant_origin_append {u : Uri} (h : IsOrigin u.scheme u.authority) (t : Text) :
    significant (u.origin ++ t) = u.origin ++ t.filter (!isSkipped ·) := by
  obtain ⟨c, r, hr, hc⟩ := exists_cons_of_isOrigin h
  have hd : (u.origin ++ t).dropWhile isLeading = u.origin ++ t := by
    apply dropWhile_of_head?
    rw [hr]
    rintro d hd
    cases hd
    rcases hc with hc | rfl
    · exact isLeading_of_isAlpha hc
    · rfl
  rw [significant, hd, List.filter_append,
    filter_isSkipped fun c hm => isSkipped_of_mem_origin h hm]

/-- Scheme and authority are found again in front of any text that ends the authority. -/
theorem cut_origin_append {u : Uri} (h : IsOrigin u.scheme u.authority) {t : Text}
    (ht : Authority.IsRest t) : cut (u.origin ++ t) = u.withRest t := by
  have hs : Scheme.cut (u.origin ++ t) = (u.scheme, '/' :: '/' :: (u.authority ++ t)) := by
    rw [origin, List.append_assoc]
    exact cut_renderScheme_append h.scheme_isRead fun _ => Scheme.opens_cons_slash _
  have ha := Authority.cut_append (fun c hc => (h.of_mem_authority c hc).1) ht
  simp only [cut, hs, ha, withRest]

/-- A text behind an origin is read without a fault: it is cut into path, query and
fragment, and the origin stays. -/
theorem split_origin_append {u : Uri} (h : IsOrigin u.scheme u.authority) {t : Text}
    (ht : Authority.IsRest t) :
    split (u.origin ++ t) = .ok (u.withRest (t.filter (!isSkipped ·))) := by
  rw [split_eq_ok_iff]
  refine ⟨?_, h.fault⟩
  rw [parts, significant_origin_append h, cut_origin_append h ht.filter]

/-- A hosted URI is written and read again without a fault. -/
theorem Hosted.split_render {u : Uri} (h : u.Hosted) : split u.render = .ok u.reread := by
  rw [h.render_eq]
  exact split_origin_append h.toIsOrigin h.isRest_rest

/-- A hosted URI stays hosted when it is read again. -/
theorem Hosted.reread {u : Uri} (h : u.Hosted) : u.reread.Hosted where
  toIsOrigin := h.toIsOrigin
  path_isRooted := isRooted_withRest h.isRest_rest.filter

/-! ## What reading gives -/

/-- Nothing is read as nothing. -/
theorem split_nil : split [] = .ok ⟨[], [], [], [], []⟩ :=
  split_eq_ok_iff.mpr ⟨rfl, Authority.fault?_nil⟩

/-- A faulty text is not empty. -/
theorem ne_nil_of_split_eq_error {t : Text} {fault : AuthorityFault}
    (h : split t = .error fault) : t ≠ [] := by
  rintro rfl
  rw [split_nil] at h
  cases h

/-- A text that names an authority is not empty. -/
theorem ne_nil_of_split {t : Text} {u : Uri} (h : split t = .ok u) (ha : u.authority ≠ []) :
    t ≠ [] := by
  rintro rfl
  obtain rfl := Except.ok.inj (split_nil.symm.trans h)
  exact ha rfl

theorem mem_of_mem_significant {t : Text} {c : Char} (h : c ∈ significant t) : c ∈ t :=
  List.dropWhile_subset _ (List.mem_of_mem_filter h)

/-- A text that opens with no scheme and no slash is all path, query and fragment. -/
theorem cut_of_not_opens {t : Text} (ho : Scheme.opens t = false) (ht : t.head? ≠ some '/') :
    cut t = withRest ⟨[], [], [], [], []⟩ t := by
  have ha : Authority.cut t = ([], t) := by
    apply Authority.cut_of_not_announced
    rintro r rfl
    exact ht rfl
  simp only [cut, Scheme.cut_of_not_opens ho, ha, withRest]

/-- Everything that is read stands in the written text. -/
theorem mem_of_mem_cut {t : Text} {c : Char}
    (h : c ∈ (Authority.cut (Scheme.cut t).2).1 ∨ c ∈ (Authority.cut (Scheme.cut t).2).2) :
    c ∈ t := by
  rcases h with h | h
  · exact Scheme.mem_of_mem_cut_snd (Authority.mem_of_mem_cut_fst h)
  · exact Scheme.mem_of_mem_cut_snd (Authority.mem_of_mem_cut_snd h)

/-- Components that were read are clean. -/
theorem clean_of_split {t : Text} {u : Uri} (h : split t = .ok u) : u.Clean := by
  obtain ⟨rfl, _⟩ := split_eq_ok_iff.mp h
  exact clean_withRest (u := parts t) fun c hc =>
    isSkipped_of_mem_significant (mem_of_mem_cut (Or.inr hc))

/-- A URI that was read with an authority is hosted. -/
theorem hosted_of_split {t : Text} {u : Uri} (h : split t = .ok u) (ha : u.authority ≠ []) :
    u.Hosted := by
  obtain ⟨rfl, hf⟩ := split_eq_ok_iff.mp h
  exact {
    scheme_isRead := Scheme.isRead_cut _
    authority_ne_nil := ha
    of_mem_authority := fun c hc => ⟨Authority.isEnd_of_mem_cut hc,
      isSkipped_of_mem_significant (mem_of_mem_cut (Or.inl hc))⟩
    fault := hf
    path_isRooted := isRooted_withRest (u := parts t) (Authority.isRest_cut ha) }

end Uri

/-! ## Texts behind one another -/

/-- Without an authority the text stays whole, or two slashes are taken off and an end
character follows. -/
theorem Authority.cut_of_fst_eq_nil {t : Text} (h : (cut t).1 = []) :
    (cut t).2 = t ∨ IsRest (cut t).2 := by
  by_cases ha : ∃ r, t = '/' :: '/' :: r
  · obtain ⟨r, rfl⟩ := ha
    refine Or.inr fun c hc => ?_
    have hd := List.head?_dropWhile_not (!isEnd ·) r
    change (r.dropWhile (!isEnd ·)).head? = some c at hc
    rw [hc] at hd
    simpa only [Bool.not_eq_false'] using hd
  · exact Or.inl (congrArg Prod.snd (cut_of_not_announced fun r hr => ha ⟨r, hr⟩))

/-- Two texts are read behind one another, if the first does not end among leading
characters and the second does not start with one. -/
theorem Uri.significant_append {s t : Text} {c : Char} (hc : c ∈ s) (hl : isLeading c = false)
    (ht : ∀ c, t.head? = some c → isLeading c = false) :
    significant (s ++ t) = significant s ++ significant t := by
  have hs : s.dropWhile isLeading ≠ [] := List.ne_nil_of_mem ((mem_dropWhile_iff hl).mpr hc)
  simp only [significant, List.dropWhile_append, List.isEmpty_iff, hs, ite_false,
    List.filter_append, dropWhile_of_head? ht]

/-- Text behind a slash does not turn a text that opens with no scheme into one that does. -/
theorem Scheme.opens_append {s : Text} (ho : opens s = false) (hs : '/' ∈ s) (t : Text) :
    opens (s ++ t) = false := by
  by_contra hn
  simp only [Bool.not_eq_false, opens, Bool.and_eq_true] at hn
  by_cases hc : ':' ∈ s
  · simp only [opens, List.contains_iff_mem.mpr hc, Bool.true_and,
      ← before_append_of_mem hc t, hn.2, Bool.true_eq_false] at ho
  · have hm : '/' ∈ before ':' (s ++ t) := by
      rw [before_append hc]
      exact List.mem_append_left _ hs
    exact absurd (isSchemeChar_of_mem hn.2 hm) (by decide)

/-! ## Sources that are read -/

namespace Source

/-- A source whose components are read from a written URI, not taken as they are. -/
def IsWritten : Source → Prop
  | text _ => True
  | split _ => False
  | params _ => True

/-- A written URI is read. -/
theorem isWritten_text (written : Text) : (text written).IsWritten := trivial

theorem IsWritten.exists_split {source : Source} (h : source.IsWritten) :
    ∃ t, source.uri = Uri.split t := by
  cases source with
  | text written => exact ⟨trimBlanks written, rfl⟩
  | split u => cases h
  | params u => exact ⟨u.render, rfl⟩

/-- The components that are read from a source are clean. -/
theorem IsWritten.clean {source : Source} (h : source.IsWritten) {u : Uri}
    (hu : source.uri = .ok u) : u.Clean := by
  obtain ⟨t, ht⟩ := h.exists_split
  exact Uri.clean_of_split (ht.symm.trans hu)

/-- A URI with an authority that is read from a source is hosted. -/
theorem IsWritten.hosted {source : Source} (h : source.IsWritten) {u : Uri}
    (hu : source.uri = .ok u) (ha : u.authority ≠ []) : u.Hosted := by
  obtain ⟨t, ht⟩ := h.exists_split
  exact Uri.hosted_of_split (ht.symm.trans hu) ha

end Source

/-- Reading a URI that is there gives the components of its source. -/
theorem readUri_eq_ok_iff {argument : Text} {source : Source} {u : Uri} :
    readUri argument (some source) = .ok u ↔ source.uri = .ok u := by
  cases h : source.uri <;> simp [readUri, Error.require, Error.ofSplit, bind, Except.bind, h]

end UriMount

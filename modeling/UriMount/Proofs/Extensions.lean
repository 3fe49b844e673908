import UriMount.Proofs.Reading

/-!
# Texts behind a written URI

Text behind a written URI with an authority is read as if the URI went on, if it
starts with an end character: scheme and authority stay, and the path grows only
where neither a query nor a fragment has begun.
-/

namespace UriMount

open Text

/-- A colon decides whether a text opens with a scheme, whatever stands behind it. -/
theorem Scheme.cut_append_of_mem {s : Text} (hc : ':' ∈ s) (t : Text) :
    cut (s ++ t) = ((cut s).1, (cut s).2 ++ t) := by
  have hopens : opens (s ++ t) = opens s := by
    simp only [opens, before_append_of_mem hc, List.contains_eq_mem, List.mem_append, hc, true_or]
  rw [cut, cut, hopens, before_append_of_mem hc, after_append_of_mem hc]
  split <;> rfl

/-- A scheme is found in front of more text, as is its absence if a slash stands there. -/
theorem Scheme.cut_append {s : Text} (hs : '/' ∈ (cut s).2) (t : Text) :
    cut (s ++ t) = ((cut s).1, (cut s).2 ++ t) := by
  by_cases ho : opens s = true
  · simp only [opens, Bool.and_eq_true, List.contains_iff_mem] at ho
    exact cut_append_of_mem ho.1 t
  · rw [Bool.not_eq_true] at ho
    rw [cut_of_not_opens ho] at hs ⊢
    exact cut_of_not_opens (opens_append ho hs t)

/-- An authority that is there is announced by two slashes. -/
theorem Authority.exists_announced {t : Text} (ha : (cut t).1 ≠ []) :
    ∃ r, t = '/' :: '/' :: r := by
  by_contra hn
  rw [cut_of_not_announced fun r hr => hn ⟨r, hr⟩] at ha
  exact ha rfl

/-- Behind two slashes, text that ends an authority leaves the authority as it is. -/
theorem Authority.cut_announced_append (r : Text) {t : Text} (ht : IsRest t) :
    cut ('/' :: '/' :: r ++ t) =
      ((cut ('/' :: '/' :: r)).1, (cut ('/' :: '/' :: r)).2 ++ t) := by
  have hsplit : '/' :: '/' :: r ++ t =
      '/' :: '/' :: ((cut ('/' :: '/' :: r)).1 ++ ((cut ('/' :: '/' :: r)).2 ++ t)) := by
    rw [← List.append_assoc]
    simp only [cut, List.takeWhile_append_dropWhile, List.cons_append]
  rw [hsplit]
  refine cut_append (fun c hc => isEnd_of_mem_cut hc) fun c hc => ?_
  cases hrest : (cut ('/' :: '/' :: r)).2 with
  | nil =>
    rw [hrest, List.nil_append] at hc
    exact ht c hc
  | cons d rest =>
    rw [hrest, List.cons_append, List.head?_cons] at hc
    have hd := List.head?_dropWhile_not (!isEnd ·) r
    change (r.dropWhile (!isEnd ·)) = d :: rest at hrest
    rw [hrest, List.head?_cons, hc] at hd
    simpa only [Bool.not_eq_false'] using hd

/-- An authority is found in front of any text that ends it. -/
theorem Authority.cut_append_of_isRest {s t : Text} (ha : (cut s).1 ≠ []) (ht : IsRest t) :
    cut (s ++ t) = ((cut s).1, (cut s).2 ++ t) := by
  obtain ⟨r, rfl⟩ := exists_announced ha
  exact cut_announced_append r ht

namespace Uri

/-- An end character may lead. -/
theorem isLeading_of_isEnd {c : Char} (h : Authority.isEnd c = true) : isLeading c = false := by
  simp only [Authority.isEnd, Bool.or_eq_true, beq_iff_eq] at h
  rcases h with (rfl | rfl) | rfl <;> rfl

/-- Of text that starts with an end character only tabs and line breaks are passed over. -/
theorem significant_of_isRest {t : Text} (h : Authority.IsRest t) :
    significant t = t.filter (!isSkipped ·) := by
  rw [significant, dropWhile_of_head? fun c hc => isLeading_of_isEnd (h c hc)]

/-- Text that starts with an end character is read behind another text, if that does not end
among leading characters. -/
theorem significant_append_of_isRest {s t : Text} {c : Char} (hc : c ∈ s)
    (hl : isLeading c = false) (ht : Authority.IsRest t) :
    significant (s ++ t) = significant s ++ t.filter (!isSkipped ·) := by
  rw [significant_append hc hl fun d hd => isLeading_of_isEnd (ht d hd), significant_of_isRest ht]

/-- Where something is read, there is a character that may lead. -/
theorem exists_not_isLeading {t : Text} (h : significant t ≠ []) :
    ∃ c ∈ t, isLeading c = false := by
  cases hd : t.dropWhile isLeading with
  | nil => exact absurd (by rw [significant, hd, List.filter_nil]) h
  | cons c d =>
    have hc := List.head?_dropWhile_not isLeading t
    rw [hd, List.head?_cons] at hc
    exact ⟨c, List.dropWhile_subset _ (hd ▸ List.mem_cons_self ..), hc⟩

/-- A text that is read with an authority ends with a rest, from which its path, its query
and its fragment are read. Text that starts with an end character is put behind it. -/
theorem exists_rest {s : Text} {u : Uri} (hu : split s = .ok u) (ha : u.authority ≠ []) :
    ∃ rest, u.withRest rest = u ∧ ∀ t, Authority.IsRest t →
      split (s ++ t) = .ok (u.withRest (rest ++ t.filter (!isSkipped ·))) := by
  obtain ⟨rfl, hfault⟩ := split_eq_ok_iff.mp hu
  have hslash : '/' ∈ (Scheme.cut (significant s)).2 := by
    by_contra hn
    obtain ⟨r, hr⟩ := Authority.exists_announced ha
    rw [hr] at hn
    exact hn (List.mem_cons_self ..)
  have hne : significant s ≠ [] := List.ne_nil_of_mem (Scheme.mem_of_mem_cut_snd hslash)
  obtain ⟨c, hc, hl⟩ := exists_not_isLeading hne
  refine ⟨(Authority.cut (Scheme.cut (significant s)).2).2, rfl, fun t ht => ?_⟩
  have hsig := significant_append_of_isRest hc hl ht
  have hcut : parts (s ++ t) = (parts s).withRest
      ((Authority.cut (Scheme.cut (significant s)).2).2 ++ t.filter (!isSkipped ·)) := by
    rw [parts, cut, hsig, Scheme.cut_append hslash, Authority.cut_append_of_isRest ha ht.filter]
    rfl
  rw [split_eq_ok_iff, hcut]
  exact ⟨rfl, hfault⟩

/-- More text leaves the path alone behind the mark of a query or a fragment, and makes it
longer by its own path otherwise. -/
theorem path_withRest_append (u : Uri) (s t : Text) :
    (u.withRest (s ++ t)).path = (u.withRest s).path ∨
      (u.withRest (s ++ t)).path = (u.withRest s).path ++ (u.withRest t).path := by
  by_cases hf : '#' ∈ s
  · exact Or.inl (by simp only [withRest, before_append_of_mem hf])
  · by_cases hq : '?' ∈ s
    · exact Or.inl (by simp only [withRest, before_append hf, before_append_of_mem hq,
        before_of_not_mem hf])
    · exact Or.inr (by simp only [withRest, before_append hf, before_append hq,
        before_of_not_mem hf, before_of_not_mem hq])

end Uri

/-- Text behind a written URI that does not end with a blank is read without the blanks at its
own end. If it starts with an end character, scheme and authority stay, and the path stays as it
is or grows by the path of the text. -/
theorem Source.exists_uri_append {written t : Text} {u : Uri} (hu : (text written).uri = .ok u)
    (ha : u.authority ≠ []) (hlast : ∀ c, written.getLast? = some c → isBlank c = false)
    (ht : Authority.IsRest (trimEnd isBlank t)) :
    ∃ v, (text (written ++ t)).uri = .ok v ∧ v.scheme = u.scheme ∧ v.authority = u.authority ∧
      (v.path = u.path ∨
        v.path = u.path ++ (u.withRest ((trimEnd isBlank t).filter (!Uri.isSkipped ·))).path) := by
  have hne : written ≠ [] := by
    rintro rfl
    exact Uri.ne_nil_of_split (t := []) hu ha rfl
  obtain ⟨rest, hrest, happend⟩ := Uri.exists_rest hu ha
  have hread := happend _ ht
  rw [trimBlanks, ← trim_append hne hlast] at hread
  refine ⟨_, hread, rfl, rfl, ?_⟩
  have hpath := Uri.path_withRest_append u rest ((trimEnd isBlank t).filter (!Uri.isSkipped ·))
  rwa [hrest] at hpath

end UriMount

import UriMount.Proofs.Slashes

/-!
# Mounting at a written mount

A mount is written without slashes at the end. What then ends the text may be a blank,
which stood in front of a slash before and is trimmed when the text is handed in again.
Exactly the mounts that are written without a blank at the end are built again.
-/

namespace UriMount

open Text

/-! ## Nothing gets longer -/

namespace Text

variable {drops : Char → Bool}

theorem length_trimEnd_le (drops : Char → Bool) (t : Text) :
    (trimEnd drops t).length ≤ t.length :=
  (List.rdropWhile_prefix drops t).length_le

theorem length_trim_le (drops : Char → Bool) (t : Text) : (trim drops t).length ≤ t.length :=
  (length_trimEnd_le drops _).trans (List.dropWhile_sublist drops).length_le

/-- Trimming a text that ends with a dropped character makes it shorter. -/
theorem length_trim_lt {c : Char} {t : Text} (ht : t.getLast? = some c) (hc : drops c = true) :
    (trim drops t).length < t.length := by
  obtain ⟨s, rfl⟩ := List.getLast?_eq_some_iff.mp ht
  have hlast : ∀ x ∈ [c], drops x = true := fun x hx => List.mem_singleton.mp hx ▸ hc
  rw [trim_append_of_forall hlast, List.length_append, List.length_singleton]
  exact Nat.lt_succ_of_le (length_trim_le drops s)

end Text

namespace Uri

/-- The scheme and what follows it are not longer than the text that they are cut from. -/
theorem length_renderScheme_add_le (t : Text) :
    (cut t).renderScheme.length + (Scheme.cut t).2.length ≤ t.length := by
  have hscheme : (cut t).scheme = (Scheme.cut t).1 := rfl
  rw [renderScheme, hscheme, Scheme.cut]
  by_cases ho : Scheme.opens t = true
  · have hc : ':' ∈ t := by
      simp only [Scheme.opens, Bool.and_eq_true, List.contains_iff_mem] at ho
      exact ho.1
    have hl := congrArg List.length (before_append_after hc)
    simp only [List.length_append, List.length_cons] at hl
    simp only [ho, ite_true]
    split
    · simp only [List.length_nil]
      omega
    · simp only [List.length_append, List.length_map, List.length_singleton]
      omega
  · simp only [ho, ite_false, if_true, List.length_nil, Nat.zero_add, le_refl,
      Bool.false_eq_true]

/-- An authority with its two slashes and what follows it are as long as the text that they
are cut from. -/
theorem length_authority_add {t : Text} (ha : (Authority.cut t).1 ≠ []) :
    (Authority.cut t).1.length + (Authority.cut t).2.length + 2 = t.length := by
  obtain ⟨r, rfl⟩ := Authority.exists_announced ha
  have hl := congrArg List.length
    (List.takeWhile_append_dropWhile (p := (!Authority.isEnd ·)) (l := r))
  rw [List.length_append] at hl
  simp only [Authority.cut, List.length_cons, hl]

/-- A URI that is read with an authority is written no longer up to its path than the text
that it is read from. -/
theorem length_origin_add_le {t : Text} {u : Uri} (hu : split t = .ok u) (ha : u.authority ≠ []) :
    u.origin.length + u.path.length ≤ t.length := by
  obtain ⟨rfl, -⟩ := split_eq_ok_iff.mp hu
  let tail := (Authority.cut (Scheme.cut (significant t)).2).2
  have hsignificant : (significant t).length ≤ t.length :=
    (List.filter_sublist.trans (List.dropWhile_sublist _)).length_le
  have hscheme := length_renderScheme_add_le (significant t)
  have hauthority := length_authority_add ha
  have hpath : (parts t).path.length ≤ tail.length :=
    ((before_isPrefix '?' _).trans (before_isPrefix '#' tail)).length_le
  have horigin : (parts t).origin.length =
      (parts t).renderScheme.length + (parts t).authority.length + 2 := by
    simp only [origin, List.length_append, List.length_cons, Nat.add_assoc]
  change (parts t).renderScheme.length + _ ≤ _ at hscheme
  change (parts t).authority.length + tail.length + 2 = _ at hauthority
  omega

end Uri

/-! ## Built again or not -/

namespace Mount

/-- A mount at a written base is written no longer than the base without blanks around it. -/
theorem length_render_le {written : Text} {m : Mount}
    (hm : ofSource (some (.text written)) = .ok m) :
    m.render.length ≤ (trimBlanks written).length := by
  obtain ⟨u, hu, hmountable, hbase⟩ := ofSource_eq_ok_iff.mp hm
  have hlength := Uri.length_origin_add_le hu (Authority.ne_nil_of_host?_isSome
    hmountable.host_isSome)
  have horigin : m.base.origin = u.origin := by
    rw [hbase]
    rfl
  have hpath := length_trimEnd_le isSlash u.path
  have hhosted := (isBase (Source.isWritten_text written) hm).toHosted
  rw [render_eq hhosted, basePath_of_base_eq hbase, horigin, List.length_append]
  omega

/-- A mount that is written with a blank at the end is not built again. -/
theorem render_ne_of_isBlank {m n : Mount} {c : Char} (hlast : m.render.getLast? = some c)
    (hc : isBlank c = true) (hn : ofSource (some (.text m.render)) = .ok n) :
    n.render ≠ m.render := by
  intro he
  have hle := length_render_le hn
  have hlt := length_trim_lt hlast hc
  rw [he] at hle
  exact absurd hlt (Nat.not_lt.mpr hle)

/-- A mount that is written without a blank at the end loses nothing to trimming. -/
theorem trimBlanks_render {m : Mount} (h : m.base.Hosted)
    (hlast : ∀ c, m.render.getLast? = some c → isBlank c = false) :
    trimBlanks m.render = m.render := by
  rw [trimBlanks, trim]
  conv => lhs; rw [render_eq h, Uri.dropWhile_isBlank_origin h.toIsOrigin, ← render_eq h]
  exact trimEnd_of_getLast? hlast

end Mount

/-- The mount at a written mount is written alike, has the same path and is read alike,
exactly when the written mount does not end with a blank. -/
theorem exists_ofSource_render_iff {written : Text} {m : Mount}
    (hm : Mount.ofSource (some (.text written)) = .ok m) :
    (∃ n, Mount.ofSource (some (.text m.render)) = .ok n ∧
        n.render = m.render ∧ n.basePath = m.basePath ∧ n.uri = m.uri) ↔
      ∀ c, m.render.getLast? = some c → isBlank c = false := by
  have hbase := Mount.isBase (Source.isWritten_text written) hm
  constructor
  · rintro ⟨n, hn, hrender, -, -⟩ c hc
    by_contra hb
    exact Mount.render_ne_of_isBlank hc (Bool.not_eq_false _ ▸ hb) hn hrender
  · intro hlast
    have hread : (Source.text m.render).uri = .ok { m.base with path := m.basePath } := by
      rw [← Mount.uri_of_clean hbase.toHosted hbase.toClean]
      exact congrArg Uri.split (Mount.trimBlanks_render hbase.toHosted hlast)
    obtain ⟨n, hn, hsame⟩ :=
      Mount.exists_samePlace hread rfl rfl (List.rdropWhile_idempotent isSlash _)
    have hnHosted := (Mount.isBase (Source.isWritten_text _) hn).toHosted
    exact ⟨n, hn, hsame.render_eq hnHosted hbase.toHosted, hsame.basePath_eq,
      hsame.uri_eq hnHosted hbase.toHosted⟩

/-- A mount with blanks and slashes inside its path, below which a query was dropped. -/
theorem exists_ofSource_render_iff_of_query :
    ∃ m, Mount.ofSource (some (.text " Ws://u@H:1//a /b//?q".toList)) = .ok m ∧
      (∀ c, m.render.getLast? = some c → isBlank c = false) ∧
      ∃ n, Mount.ofSource (some (.text m.render)) = .ok n ∧
        n.render = m.render ∧ n.basePath = m.basePath ∧ n.uri = m.uri := by
  let m : Mount :=
    ⟨"ws".toList, "u@H:1".toList, "//a /b//".toList, by decide, by rfl, by rfl, by rfl⟩
  have hm : Mount.ofSource (some (.text " Ws://u@H:1//a /b//?q".toList)) = .ok m := by rfl
  have hlast : ∀ c, m.render.getLast? = some c → isBlank c = false := by
    rintro c hc
    cases hc
    decide
  exact ⟨m, hm, hlast, (exists_ofSource_render_iff hm).mpr hlast⟩

/-- Not every mount is built again: a blank in front of the last slash is lost. -/
theorem not_exists_ofSource_render_of_blank :
    ¬∀ (written : Text) (m : Mount), Mount.ofSource (some (.text written)) = .ok m →
      ∃ n, Mount.ofSource (some (.text m.render)) = .ok n ∧
        n.render = m.render ∧ n.basePath = m.basePath ∧ n.uri = m.uri := by
  intro h
  let m : Mount := ⟨"http".toList, "h".toList, "/a /".toList, by decide, by rfl, by rfl, by rfl⟩
  let n : Mount := ⟨"http".toList, "h".toList, "/a/".toList, by decide, by rfl, by rfl, by rfl⟩
  have hm : Mount.ofSource (some (.text "http://h/a /".toList)) = .ok m := by rfl
  have hrender : m.render = "http://h/a ".toList := by rfl
  have hn : Mount.ofSource (some (.text "http://h/a ".toList)) = .ok n := by rfl
  obtain ⟨n', hn', -, hpath, -⟩ := h _ m hm
  rw [hrender] at hn'
  obtain rfl := Except.ok.inj (hn.symm.trans hn')
  exact absurd hpath (by decide)

end UriMount

import UriMount.Proofs.Extensions
import UriMount.Proofs.Mounts

/-!
# Which written bases are accepted

A written base is trimmed, freed of what is passed over and cut at its marks before anything is
asked of it. Where its authority is plain, the outcome can be told from the text alone: it is
accepted exactly when it opens with a scheme and two slashes, names a host, and names no port or
a proper one. An improper port is reported before a missing scheme or host.
-/

namespace UriMount

open Text

/-! ## Ports -/

/-- The number that a text of digits writes has these digits in base ten. -/
theorem Text.decimalValue_eq_ofDigits (t : Text) :
    decimalValue t = Nat.ofDigits 10 (t.reverse.map fun c => c.toNat - '0'.toNat) := by
  induction t using List.reverseRecOn with
  | nil => rfl
  | append_singleton t c ih =>
    rw [decimalValue_concat, ih, List.reverse_concat, List.map_cons, Nat.ofDigits_cons,
      Nat.add_comm]

namespace Authority

/-- A written port that is proper: ASCII digits, at most 4300 of them with leading zeros, for a
number up to 65535. An empty port is none, and proper. -/
structure IsPort (port : Text) : Prop where
  /-- Only ASCII digits stand in it. -/
  isDigit_of_mem : ∀ c ∈ port, c.isDigit = true
  /-- A number can be read from it. -/
  length_le : port.length ≤ 4300
  /-- Its digits in base ten, the last one first, make up a port. -/
  value_le : Nat.ofDigits 10 (port.reverse.map fun c => c.toNat - '0'.toNat) ≤ 65535

instance (port : Text) : Decidable (IsPort port) :=
  decidable_of_iff (port.all Char.isDigit = true ∧ port.length ≤ 4300 ∧
      Nat.ofDigits 10 (port.reverse.map fun c => c.toNat - '0'.toNat) ≤ 65535)
    ⟨fun h => ⟨List.all_eq_true.mp h.1, h.2.1, h.2.2⟩,
      fun h => ⟨List.all_eq_true.mpr h.isDigit_of_mem, h.length_le, h.value_le⟩⟩

theorem isPort_nil : IsPort [] := by decide

/-- A port that is there is proper exactly when it passes the three checks of a port. -/
theorem isPort_iff {port : Text} (hne : port ≠ []) :
    IsPort port ↔
      isDecimal port = true ∧ port.length ≤ maxDigits ∧ decimalValue port ≤ maxPort := by
  have hdecimal : isDecimal port = true ↔ ∀ c ∈ port, c.isDigit = true := by
    simp only [isDecimal, Bool.and_eq_true, bne_iff_ne, ne_eq, hne, not_false_eq_true, true_and,
      List.all_eq_true]
  rw [hdecimal, decimalValue_eq_ofDigits]
  exact ⟨fun h => ⟨h.isDigit_of_mem, h.length_le, h.value_le⟩, fun h => ⟨h.1, h.2.1, h.2.2⟩⟩

/-- A port is read, or found missing, exactly when it is written properly. -/
theorem isOk_port?_iff (authority : Text) :
    (port? authority).isOk ↔ IsPort (writtenPort authority) := by
  by_cases hn : writtenPort authority = []
  · rw [port?, hn]
    exact iff_of_true rfl isPort_nil
  · rw [isPort_iff hn]
    unfold port?
    split
    · rename_i he
      exact absurd he hn
    · split
      · rename_i hd
        refine iff_of_false Bool.false_ne_true fun h => ?_
        rw [h.1] at hd
        cases hd
      · split
        · rename_i hl
          exact iff_of_false Bool.false_ne_true fun h => absurd hl (Nat.not_lt.mpr h.2.1)
        · split
          · rename_i hv
            exact iff_of_false Bool.false_ne_true fun h => absurd hv (Nat.not_lt.mpr h.2.2)
          · rename_i hd hl hv
            rw [Bool.not_eq_true, Bool.not_eq_false'] at hd
            exact iff_of_true rfl ⟨hd, Nat.not_lt.mp hl, Nat.not_lt.mp hv⟩

/-- A host is named exactly when something is written for it. -/
theorem isSome_host?_iff (authority : Text) :
    (host? authority).isSome ↔ writtenHost authority ≠ [] := by
  unfold host?
  split
  · rename_i hn
    simp only [hn, Option.isSome_none, Bool.false_eq_true, ne_eq, not_true_eq_false]
  · rename_i hne
    exact iff_of_true rfl hne

/-! ## Plain authorities -/

/-- An authority with nothing but ASCII characters in it, and no brackets. -/
def IsPlain (authority : Text) : Prop := ∀ c ∈ authority, c.toNat < 128 ∧ c ≠ '[' ∧ c ≠ ']'

instance (authority : Text) : Decidable (IsPlain authority) :=
  List.decidableBAll (fun c : Char => c.toNat < 128 ∧ c ≠ '[' ∧ c ≠ ']') authority

namespace IsPlain

variable {authority : Text} (h : IsPlain authority)
include h

/-- Nothing is wrong with a plain authority. -/
theorem fault?_eq_none : fault? authority = none := by
  have hopen : authority.contains '[' = false := by
    rw [← Bool.not_eq_true, List.contains_iff_mem]
    exact fun hm => (h _ hm).2.1 rfl
  have hclose : authority.contains ']' = false := by
    rw [← Bool.not_eq_true, List.contains_iff_mem]
    exact fun hm => (h _ hm).2.2 rfl
  have hlookalike : authority.any isLookalike = false := by
    rw [List.any_eq_false]
    exact fun c hc => by rw [isLookalike_eq_false_of_lt (h c hc).1]; exact Bool.false_ne_true
  simp only [fault?, bracketFault?, hopen, hclose, hlookalike, bne_self_eq_false, Bool.not_false,
    Bool.false_eq_true, ite_false, ite_true]

theorem not_mem_hostPort : '[' ∉ hostPort authority := fun hm =>
  (h _ (mem_of_mem_afterLast hm)).2.1 rfl

/-- The host stands between the last at sign and the next colon. -/
theorem writtenHost_eq : writtenHost authority = before ':' (afterLast '@' authority) :=
  if_neg fun hc => h.not_mem_hostPort (List.contains_iff_mem.mp hc)

/-- The port stands behind the first colon behind the last at sign. -/
theorem writtenPort_eq : writtenPort authority = after ':' (afterLast '@' authority) :=
  if_neg fun hc => h.not_mem_hostPort (List.contains_iff_mem.mp hc)

end IsPlain

end Authority

/-! ## Schemes -/

/-- A scheme is an ASCII letter followed by ASCII letters, digits, plus signs, hyphens and
points. -/
theorem Scheme.isScheme_cons_iff {first : Char} {others : Text} :
    isScheme (first :: others) = true ↔ first.isAlpha = true ∧
      ∀ c ∈ others, c.isAlphanum = true ∨ c = '+' ∨ c = '-' ∨ c = '.' := by
  simp only [isScheme, isSchemeChar, List.head?_cons, Option.any_some, List.all_cons,
    Char.isAlphanum, Bool.and_eq_true, Bool.or_eq_true, beq_iff_eq, List.all_eq_true]
  constructor
  · rintro ⟨hfirst, -, hothers⟩
    exact ⟨hfirst, fun c hc => by simpa only [or_assoc] using hothers c hc⟩
  · rintro ⟨hfirst, hothers⟩
    exact ⟨hfirst, Or.inl (Or.inl (Or.inl (Or.inl hfirst))),
      fun c hc => by simpa only [or_assoc] using hothers c hc⟩

namespace Uri

/-- A text that opens with a scheme, a colon and two slashes. -/
def OpensOrigin (t : Text) : Prop :=
  ∃ first others rest, t = first :: others ++ "://".toList ++ rest ∧ first.isAlpha = true ∧
    ∀ c ∈ others, c.isAlphanum = true ∨ c = '+' ∨ c = '-' ∨ c = '.'

/-- A text in which an authority is found has a scheme exactly when it opens with one and two
slashes. -/
theorem cut_scheme_ne_nil_iff {t : Text} (ha : (cut t).authority ≠ []) :
    (cut t).scheme ≠ [] ↔ OpensOrigin t := by
  constructor
  · intro hs
    have ho : Scheme.opens t = true := by
      by_contra hn
      rw [Bool.not_eq_true] at hn
      exact hs (congrArg Prod.fst (Scheme.cut_of_not_opens hn))
    have hcut : Scheme.cut t = ((before ':' t).map Char.toLower, after ':' t) := if_pos ho
    simp only [Scheme.opens, Bool.and_eq_true, List.contains_iff_mem] at ho
    obtain ⟨rest, hrest⟩ := Authority.exists_announced ha
    have hafter : after ':' t = '/' :: '/' :: rest := (congrArg Prod.snd hcut).symm.trans hrest
    obtain ⟨first, others, hscheme, -⟩ := Scheme.exists_cons_of_isScheme ho.2
    obtain ⟨hfirst, hothers⟩ := Scheme.isScheme_cons_iff.mp (hscheme ▸ ho.2)
    refine ⟨first, others, rest, ?_, hfirst, hothers⟩
    rw [← hscheme, List.append_assoc]
    exact (hafter ▸ before_append_after ho.1).symm
  · rintro ⟨first, others, rest, rfl, hfirst, hothers⟩
    have hcut := Scheme.cut_append_colon_of_isScheme
      (Scheme.isScheme_cons_iff.mpr ⟨hfirst, hothers⟩) ('/' :: '/' :: rest)
    rw [List.append_assoc]
    exact fun hn => List.cons_ne_nil _ _ ((congrArg Prod.fst hcut).symm.trans hn)

/-- A scheme and a host are found exactly in a text that opens with a scheme and two slashes and
has a host behind them. -/
theorem names_iff {t : Text} (h : Authority.IsPlain (cut t).authority) :
    ((cut t).scheme ≠ [] ∧ (Authority.host? (cut t).authority).isSome) ↔
      OpensOrigin t ∧ before ':' (afterLast '@' (cut t).authority) ≠ [] := by
  rw [Authority.isSome_host?_iff, h.writtenHost_eq]
  refine and_congr_left fun hhost => cut_scheme_ne_nil_iff fun hn => hhost ?_
  rw [hn]
  rfl

end Uri

/-- Where the authority of a written base is plain, the base is accepted exactly when it opens
with a scheme and two slashes, its host is there and its port is proper. It is refused for its
port exactly when that is improper, whether or not a scheme and a host are there, and for a
missing scheme or host in all other cases. Both messages show the base as it was written. -/
theorem exists_ofSource_text_iff {written t authority : Text}
    (ht : Uri.significant (trimBlanks written) = t) (ha : (Uri.cut t).authority = authority)
    (hplain : Authority.IsPlain authority) :
    ((∃ m, Mount.ofSource (some (.text written)) = .ok m) ↔
        Uri.OpensOrigin t ∧ before ':' (afterLast '@' authority) ≠ [] ∧
          Authority.IsPort (after ':' (afterLast '@' authority))) ∧
      (Mount.ofSource (some (.text written)) = .error (.basePort (.text written)) ↔
        ¬Authority.IsPort (after ':' (afterLast '@' authority))) ∧
      (Mount.ofSource (some (.text written)) = .error (.incompleteBase (.text written)) ↔
        Authority.IsPort (after ':' (afterLast '@' authority)) ∧
          ¬(Uri.OpensOrigin t ∧ before ':' (afterLast '@' authority) ≠ [])) ∧
      (Error.basePort (.text written)).message =
        "base_uri has an invalid port: ".toList ++ written ∧
      (Error.incompleteBase (.text written)).message =
        "base_uri must have a scheme and host: ".toList ++ written := by
  have hread : (Source.text written).uri = .ok (Uri.cut t) :=
    Uri.split_eq_ok_iff.mpr ⟨congrArg Uri.cut ht, ha ▸ hplain.fault?_eq_none⟩
  have hport : (Authority.port? (Uri.cut t).authority).isOk ↔
      Authority.IsPort (after ':' (afterLast '@' authority)) := by
    rw [Authority.isOk_port?_iff, ha, hplain.writtenPort_eq]
  have hnames := Uri.names_iff (ha ▸ hplain)
  rw [Mount.ofSource_of_uri hread, ← hport, ← ha]
  refine ⟨?_, ?_, ?_, rfl, rfl⟩
  · rw [Mount.exists_ofUri_iff, Uri.isMountable_iff, ← and_assoc, hnames, and_assoc]
  · rw [Mount.ofUri_eq_error_iff]
    simp only [reduceCtorEq, and_true, and_false, or_false]
  · rw [Mount.ofUri_eq_error_iff, hnames]
    simp only [reduceCtorEq, and_true, and_false, false_or]

/-- Two at signs and a port with leading zeros in an accepted base, an improper port behind a
host without a scheme, and a port that stands alone. -/
theorem exists_ofSource_text_iff_of_ports :
    (∃ m, Mount.ofSource (some (.text " \x00Ht\ttp://a@u:x@H:00080/p?q".toList)) = .ok m) ∧
      Mount.ofSource (some (.text "//h:8x?q".toList)) =
        .error (.basePort (.text "//h:8x?q".toList)) ∧
      Mount.ofSource (some (.text "Http://u:1@:80/".toList)) =
        .error (.incompleteBase (.text "Http://u:1@:80/".toList)) := by
  refine ⟨?_, ?_, ?_⟩
  · have ht : Uri.significant (trimBlanks " \x00Ht\ttp://a@u:x@H:00080/p?q".toList) =
        "Http://a@u:x@H:00080/p?q".toList := by rfl
    have ha : (Uri.cut "Http://a@u:x@H:00080/p?q".toList).authority = "a@u:x@H:00080".toList := by
      rfl
    have hopens : Uri.OpensOrigin "Http://a@u:x@H:00080/p?q".toList :=
      ⟨'H', "ttp".toList, "a@u:x@H:00080/p?q".toList, by rfl,
        Scheme.isScheme_cons_iff.mp (by decide)⟩
    exact (exists_ofSource_text_iff ht ha (by decide)).1.mpr ⟨hopens, by decide, by decide⟩
  · have ht : Uri.significant (trimBlanks "//h:8x?q".toList) = "//h:8x?q".toList := by rfl
    have ha : (Uri.cut "//h:8x?q".toList).authority = "h:8x".toList := by rfl
    exact (exists_ofSource_text_iff ht ha (by decide)).2.1.mpr (by decide)
  · have ht : Uri.significant (trimBlanks "Http://u:1@:80/".toList) =
        "Http://u:1@:80/".toList := by rfl
    have ha : (Uri.cut "Http://u:1@:80/".toList).authority = "u:1@:80".toList := by rfl
    exact (exists_ofSource_text_iff ht ha (by decide)).2.2.1.mpr
      ⟨by decide, fun h => absurd h.2 (by decide)⟩

end UriMount

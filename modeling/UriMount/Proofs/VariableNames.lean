import UriMount.Settings
import Mathlib

/-!
# Names of variables

Upper case leaves what it has produced as it is: nothing that its table maps to is mapped any
further. The name of a variable is spelled once and for all by that, so a key of two parts has
the name of its second part, where the name of the first part stands in front of all names.
-/

namespace UriMount

open Text

namespace Text

namespace Case

/-! ## Numbers as bits -/

/-- The number whose bits are set at the members of a list. -/
def bitsAt (numbers : List Nat) : Nat := numbers.foldr (fun n bits => 1 <<< n ||| bits) 0

theorem testBit_bitsAt {numbers : List Nat} {n : Nat} :
    (bitsAt numbers).testBit n = true ↔ n ∈ numbers := by
  induction numbers with
  | nil =>
    simp only [bitsAt, List.foldr_nil, Nat.zero_testBit, Bool.false_eq_true, List.not_mem_nil]
  | cons m numbers ih =>
    change (1 <<< m ||| bitsAt numbers).testBit n = true ↔ _
    rw [Nat.testBit_or, Bool.or_eq_true, ih, List.mem_cons, Nat.one_shiftLeft,
      Nat.testBit_two_pow, decide_eq_true_eq, eq_comm]

/-- Lists that set no bit in common have no member in common. -/
theorem not_mem_of_bitsAt {l r : List Nat} (h : bitsAt l &&& bitsAt r = 0) {n : Nat}
    (hr : n ∈ r) : n ∉ l := by
  intro hl
  have hn : (bitsAt l &&& bitsAt r).testBit n = true := by
    rw [Nat.testBit_and, testBit_bitsAt.mpr hl, testBit_bitsAt.mpr hr, Bool.and_self]
  rw [h, Nat.zero_testBit] at hn
  cases hn

/-! ## Images of a table -/

/-- The code points of a run, in order. -/
def Run.members (r : Run) : List Nat :=
  (List.range ((r.last - r.first) / r.stride + 1)).map (r.first + r.stride * ·)

/-- A run covers its members only. -/
theorem Run.mem_members {r : Run} {n : Nat} (h : r.covers n = true) : n ∈ r.members := by
  simp only [covers, Bool.and_eq_true, decide_eq_true_eq, beq_iff_eq] at h
  obtain ⟨⟨hfirst, hlast⟩, hstride⟩ := h
  have hquotient : (n - r.first) / r.stride ≤ (r.last - r.first) / r.stride :=
    Nat.div_le_div_right (by omega)
  have hexact : r.stride * ((n - r.first) / r.stride) = n - r.first :=
    Nat.mul_div_cancel' (Nat.dvd_of_mod_eq_zero hstride)
  refine List.mem_map.mpr ⟨(n - r.first) / r.stride, List.mem_range.mpr (by omega), ?_⟩
  rw [hexact]
  omega

namespace Table

/-- The code points that a table maps. -/
def sources (table : Table) : List Nat :=
  table.expansions.map Prod.fst ++ table.runs.flatMap Run.members

/-- The code points that a table maps to. -/
def targets (table : Table) : List Nat :=
  table.expansions.flatMap Prod.snd ++ table.runs.flatMap fun r => r.members.map r.image

variable {table : Table} {c d : Char}

/-- A character grows, moves with a run that covers it, or stays as it is. -/
theorem map_cases (table : Table) (c : Char) :
    (∃ image, (c.toNat, image) ∈ table.expansions ∧ table.map c = image.map Char.ofNat) ∨
      (∃ r ∈ table.runs, c.toNat ∈ r.members ∧ table.map c = [Char.ofNat (r.image c.toNat)]) ∨
      table.map c = [c] := by
  unfold map
  split
  · rename_i image hlookup
    obtain ⟨front, back, hsplit, -⟩ := List.lookup_eq_some_iff.mp hlookup
    refine Or.inl ⟨image, ?_, rfl⟩
    rw [hsplit]
    exact List.mem_append_right _ (List.mem_cons_self ..)
  · split
    · rename_i r hr
      have hcovers := List.find?_some hr
      exact Or.inr (Or.inl ⟨r, List.mem_of_find?_eq_some hr, Run.mem_members hcovers, rfl⟩)
    · exact Or.inr (Or.inr rfl)

/-- A character that the table does not map stays as it is. -/
theorem map_of_not_mem_sources (h : c.toNat ∉ table.sources) : table.map c = [c] := by
  simp only [sources, List.mem_append, not_or] at h
  rcases table.map_cases c with ⟨image, himage, -⟩ | ⟨r, hr, hmember, -⟩ | hself
  · exact absurd (List.mem_map_of_mem himage) h.1
  · exact absurd (List.mem_flatMap_of_mem hr hmember) h.2
  · exact hself

/-- What a character is mapped to is itself, or code points that the table maps to. -/
theorem of_mem_map (h : d ∈ table.map c) :
    (∃ n ∈ table.targets, d = Char.ofNat n) ∨ table.map c = [c] ∧ d = c := by
  rcases table.map_cases c with ⟨image, himage, hmap⟩ | ⟨r, hr, hmember, hmap⟩ | hself
  · rw [hmap] at h
    obtain ⟨n, hn, rfl⟩ := List.mem_map.mp h
    exact Or.inl ⟨n, List.mem_append_left _ (List.mem_flatMap_of_mem himage hn), rfl⟩
  · rw [hmap, List.mem_singleton] at h
    exact Or.inl ⟨r.image c.toNat, List.mem_append_right _
      (List.mem_flatMap_of_mem hr (List.mem_map_of_mem hmember)), h⟩
  · rw [hself, List.mem_singleton] at h
    exact Or.inr ⟨hself, h⟩

/-- In a table that maps neither its targets nor the null character, images stay as they are.
The null character stands in for a target that is the number of no character. -/
theorem map_of_mem_map (h : bitsAt table.sources &&& bitsAt (0 :: table.targets) = 0)
    (hd : d ∈ table.map c) : table.map d = [d] := by
  rcases of_mem_map hd with ⟨n, hn, rfl⟩ | ⟨hself, rfl⟩
  · apply map_of_not_mem_sources
    rw [Char.toNat_ofNat]
    split
    · exact not_mem_of_bitsAt h (List.mem_cons_of_mem _ hn)
    · exact not_mem_of_bitsAt h (List.mem_cons_self ..)
  · exact hself

end Table

/-- The upper-case table maps none of the characters that it maps to. -/
theorem upperTable_apart :
    bitsAt upperTable.sources &&& bitsAt (0 :: upperTable.targets) = 0 := by decide +kernel

end Case

/-! ## Upper case of whole texts -/

/-- A text whose characters all stay as they are is in upper case. -/
theorem upper_of_forall {t : Text} (h : ∀ c ∈ t, Case.upperTable.map c = [c]) : upper t = t := by
  induction t with
  | nil => rfl
  | cons c t ih =>
    obtain ⟨hc, ht⟩ := List.forall_mem_cons.mp h
    change Case.upperTable.map c ++ upper t = c :: t
    rw [hc, ih ht, List.singleton_append]

/-- The characters of a text in upper case stay as they are. -/
theorem map_of_mem_upper {t : Text} {c : Char} (h : c ∈ upper t) :
    Case.upperTable.map c = [c] := by
  obtain ⟨d, -, hd⟩ := List.mem_flatMap.mp h
  exact Case.Table.map_of_mem_map Case.upperTable_apart hd

end Text

namespace Settings

/-- The spelling of names: upper case, with underscores for points. -/
def spelled (t : Text) : Text := (upper t).map fun c => if c = '.' then '_' else c

theorem variableName_eq (stem key : Text) :
    variableName stem key = spelled (stem ++ '_' :: key) := rfl

theorem spelled_append (s t : Text) : spelled (s ++ t) = spelled s ++ spelled t := by
  rw [spelled, upper_append, List.map_append, spelled, spelled]

/-- A point is spelled as an underscore is. -/
theorem spelled_point (t : Text) : spelled ('.' :: t) = spelled ('_' :: t) := by
  have hpoint : spelled ['.'] = spelled ['_'] := by decide +kernel
  rw [← List.singleton_append, spelled_append, hpoint, ← spelled_append, List.singleton_append]

/-- No point is left in a name. -/
theorem not_mem_spelled (t : Text) : '.' ∉ spelled t := by
  intro h
  obtain ⟨c, -, hc⟩ := List.mem_map.mp h
  split at hc
  · cases hc
  · rename_i hne
    exact hne hc

/-- A name is in upper case, underscores included. -/
theorem upper_spelled (t : Text) : upper (spelled t) = spelled t := by
  have hunderscore : Case.upperTable.map '_' = ['_'] := by decide +kernel
  refine upper_of_forall fun c hc => ?_
  obtain ⟨d, hd, rfl⟩ := List.mem_map.mp hc
  split
  · exact hunderscore
  · exact map_of_mem_upper hd

/-- A name that is spelled again stays the same. -/
theorem spelled_spelled (t : Text) : spelled (spelled t) = spelled t := by
  rw [spelled, upper_spelled]
  refine (List.map_congr_left fun c hc => if_neg ?_).trans (List.map_id _)
  rintro rfl
  exact not_mem_spelled t hc

/-- The name of a key of two parts is the name of the second part, where the name of the first
part stands in front of all names. No name holds a point, and every name is in upper case. -/
theorem variableName_nested (stem first second : Text) :
    variableName stem (first ++ '.' :: second) =
        variableName (variableName stem first) second ∧
      ∀ key, '.' ∉ variableName stem key ∧
        upper (variableName stem key) = variableName stem key := by
  refine ⟨?_, fun key => ⟨not_mem_spelled _, upper_spelled _⟩⟩
  simp only [variableName_eq]
  calc spelled (stem ++ '_' :: (first ++ '.' :: second))
      = spelled (stem ++ '_' :: first) ++ spelled ('.' :: second) := by
        rw [← spelled_append, List.append_assoc, List.cons_append]
    _ = spelled (spelled (stem ++ '_' :: first)) ++ spelled ('_' :: second) := by
        rw [spelled_spelled, spelled_point]
    _ = spelled (spelled (stem ++ '_' :: first) ++ '_' :: second) := (spelled_append _ _).symm

/-- A letter that grows, in a stem that holds a point. -/
example : variableName "straße.x".toList "ŉ.ﬁ".toList = "STRASSE_X_ʼN_FI".toList := by
  decide +kernel

end Settings

end UriMount

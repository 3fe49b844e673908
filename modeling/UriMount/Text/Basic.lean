/-!
# Texts

Addresses are read and written one character at a time, so a text is the list
of its characters. This module holds the single cuts that addresses are made
with, at the first or the last occurrence of a mark and at the ends, and the
classes of characters that matter everywhere: decimal digits and blanks.
-/

namespace UriMount

/-- A text is the list of its characters. -/
abbrev Text := List Char

namespace Text

/-- The part in front of the first `c`, or the whole text without one. -/
def before (c : Char) (t : Text) : Text := t.takeWhile (· != c)

/-- The part behind the first `c`; empty without one. -/
def after (c : Char) (t : Text) : Text := (t.dropWhile (· != c)).tail

/-- The part behind the last `c`, or the whole text without one. -/
def afterLast (c : Char) (t : Text) : Text := (t.reverse.takeWhile (· != c)).reverse

/-- The part that ends with the last `c`; empty without one. -/
def throughLast (c : Char) (t : Text) : Text := (t.reverse.dropWhile (· != c)).reverse

/-- Drops the characters of a class from the end. -/
def trimEnd (drops : Char → Bool) (t : Text) : Text := (t.reverse.dropWhile drops).reverse

/-- Drops the characters of a class from both ends. -/
def trim (drops : Char → Bool) (t : Text) : Text := trimEnd drops (t.dropWhile drops)

/-- A part introduced by a mark. An empty part is left out, and its mark with it. -/
def marked (c : Char) (t : Text) : Text := if t = [] then [] else c :: t

/-- No character of the class is left at the end. -/
theorem eq_false_of_getLast?_trimEnd {drops : Char → Bool} {t : Text} {c : Char}
    (h : (trimEnd drops t).getLast? = some c) : drops c = false := by
  rw [trimEnd, List.getLast?_reverse] at h
  have hd := List.head?_dropWhile_not drops t.reverse
  rwa [h] at hd

/-- An empty part shows nothing. -/
@[simp] theorem marked_nil (c : Char) : marked c [] = [] := rfl

/-!
## Decimal digits

Ports and dotted addresses are written in the ten ASCII digits. Other digits
of Unicode are not numbers here.
-/

/-- The number that a text of digits writes. -/
def decimalValue (t : Text) : Nat := t.foldl (fun n c => 10 * n + (c.toNat - '0'.toNat)) 0

/-- A nonempty text of ASCII digits. -/
def isDecimal (t : Text) : Bool := t != [] && t.all Char.isDigit

/-- Appending a digit shifts the number by one place. -/
theorem decimalValue_concat (t : Text) (c : Char) :
    decimalValue (t ++ [c]) = 10 * decimalValue t + (c.toNat - '0'.toNat) := by
  simp only [decimalValue, List.foldl_append, List.foldl_cons, List.foldl_nil]

/-!
## Classes of characters

A class of characters is listed by its closed intervals of code points.
-/

/-- Closed intervals of code points, each by its first and last member. -/
abbrev Ranges := List (Nat × Nat)

/-- A character lies in one of the intervals. -/
def Ranges.contains (ranges : Ranges) (c : Char) : Bool :=
  ranges.any fun r => r.1 ≤ c.toNat && c.toNat ≤ r.2

/-- Membership in a class is membership in an interval of its list. -/
theorem Ranges.contains_iff {ranges : Ranges} {c : Char} :
    ranges.contains c = true ↔ ∃ r ∈ ranges, r.1 ≤ c.toNat ∧ c.toNat ≤ r.2 := by
  simp only [Ranges.contains, List.any_eq_true, Bool.and_eq_true, decide_eq_true_eq]

/-!
## Blanks

The white space of Unicode 14 with the four separator controls from U+001C to
U+001F. Surrounding blanks carry no meaning in a written address, and a
setting of blanks alone counts as absent.
-/

/-- Every blank code point. -/
def blankRanges : Ranges := [
  (0x9, 0xd), (0x1c, 0x20), (0x85, 0x85), (0xa0, 0xa0), (0x1680, 0x1680), (0x2000, 0x200a),
  (0x2028, 0x2029), (0x202f, 0x202f), (0x205f, 0x205f), (0x3000, 0x3000)]

/-- A character that is trimmed from both ends of a written address. -/
def isBlank (c : Char) : Bool := blankRanges.contains c

/-- The text without the blanks around it. -/
def trimBlanks (t : Text) : Text := trim isBlank t

end Text

end UriMount

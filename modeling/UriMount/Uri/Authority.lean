import UriMount.Text.Case
import UriMount.Text.Quoted

/-!
# Authorities

An authority is `user@host:port`, where the user information and the port may
be missing and the host may be an address in brackets. This module cuts an
authority from a written URI, says what can be wrong with it, and reads its
host and port.
-/

namespace UriMount

open Text

/-!
## Addresses in brackets

An authority may hold an address between brackets instead of a name. Three
forms are told apart: a dotted address, an address of colon-separated groups,
and an address of a later version.
-/

namespace Address

/-- One of the four numbers of a dotted address: up to three digits, no leading
zero, at most 255. -/
def isOctet (t : Text) : Bool :=
  isDecimal t && t.length ≤ 3 && (t == ['0'] || t.head? != some '0') && decimalValue t ≤ 255

/-- A dotted address: four octets. -/
def isDotted (t : Text) : Bool :=
  let octets := t.splitOn '.'
  octets.length == 4 && octets.all isOctet

/-- A hexadecimal digit. -/
def isHexDigit (c : Char) : Bool :=
  c.isDigit || ('a' ≤ c && c ≤ 'f') || ('A' ≤ c && c ≤ 'F')

/-- A group of a grouped address: one to four hexadecimal digits. -/
def isGroup (t : Text) : Bool := t != [] && t.length ≤ 4 && t.all isHexDigit

/-- The pieces of a grouped address, with a dotted last piece replaced by the two
groups that it stands for. Which groups these are does not matter to the form. -/
def withoutDotted (pieces : List Text) : Option (List Text) :=
  match pieces.getLast? with
  | some last =>
    if last.contains '.' then
      if isDotted last then some (pieces.dropLast ++ [['0'], ['0']]) else none
    else some pieces
  | none => some pieces

/-- The number of groups on one side of a gap: a single empty piece is none. -/
def sideCount (pieces : List Text) : Option Nat :=
  if pieces == [[]] then some 0
  else if pieces != [] && pieces.all isGroup then some pieces.length
  else none

/-- The pieces between colons make a full address: eight groups, or fewer than
eight with one gap, which shows as an empty piece between its two sides. -/
def isGrouping : List Text → Bool
  | [] => false
  | first :: rest =>
    match rest.dropWhile (· != []) with
    | [] => rest.length == 7 && (first :: rest).all isGroup
    | _ :: right =>
      match sideCount (first :: rest.takeWhile (· != [])), sideCount right with
      | some left, some right => left + right ≤ 7
      | _, _ => false

/-- A zone, named behind a percent sign, is not empty and holds no second sign. -/
def hasProperZone (t : Text) : Bool :=
  !t.contains '%' || (after '%' t != [] && !(after '%' t).contains '%')

/-- A grouped address, possibly with a zone. -/
def isGrouped (t : Text) : Bool :=
  hasProperZone t && (withoutDotted ((before '%' t).splitOn ':')).any isGrouping

/-- An address of a later version: `v`, a hexadecimal version, a point and more. -/
def isLater : Text → Bool
  | 'v' :: t =>
    t.takeWhile isHexDigit != [] &&
      (match t.dropWhile isHexDigit with
      | '.' :: address => address != [] && !address.contains '\n'
      | _ => false)
  | _ => false

end Address

/-!
## Lookalikes of delimiters

Some characters of Unicode 14 turn into a delimiter of URIs when a text is
brought to its compatibility form, alone or among other characters. An
authority that holds one could be taken for another authority.
-/

/-- Every character outside ASCII whose compatibility form holds one of `/`, `?`,
`#`, `@` and `:`. -/
def lookalikes : List Nat := [
  0x2047, 0x2048, 0x2049, 0x2100, 0x2101, 0x2105, 0x2106, 0x2a74, 0xfe13, 0xfe16, 0xfe55, 0xfe56,
  0xfe5f, 0xfe6b, 0xff03, 0xff0f, 0xff1a, 0xff1f, 0xff20]

/-- A character whose compatibility form holds a delimiter. -/
def isLookalike (c : Char) : Bool := lookalikes.contains c.toNat

/-- A delimiter is not its own lookalike. -/
theorem isLookalike_eq_false_of_lt {c : Char} (h : c.toNat < 128) : isLookalike c = false := by
  simp only [isLookalike, lookalikes, List.contains_eq_mem, List.mem_cons, List.not_mem_nil,
    or_false, decide_eq_false_iff_not]
  omega

/-! ## Faults, host and port -/

/-- What can be wrong with the authority of a written URI. -/
inductive AuthorityFault
  /-- A bracket without its partner, or text beside the brackets. -/
  | brackets
  /-- An address that claims a later version and has not its form. -/
  | laterAddress
  /-- A dotted address in brackets. -/
  | dottedAddress
  /-- Brackets around something that is no address. -/
  | noAddress (host : Text)
  /-- A character that could be taken for a delimiter. -/
  | lookalike (authority : Text)
deriving DecidableEq, Repr

/-- The wording of a fault. -/
def AuthorityFault.message : AuthorityFault → Text
  | brackets => "Invalid IPv6 URL".toList
  | laterAddress => "IPvFuture address is invalid".toList
  | dottedAddress => "An IPv4 address cannot be in brackets".toList
  | noAddress host => quoted host ++ " does not appear to be an IPv4 or IPv6 address".toList
  | lookalike authority =>
    "netloc '".toList ++ authority ++
      "' contains invalid characters under NFKC normalization".toList

/-- What can be wrong with a written port. -/
inductive PortFault
  /-- Something else than ASCII digits. -/
  | notDecimal (written : Text)
  /-- More digits than a number is read from. -/
  | tooLong (digits : Nat)
  /-- A number above 65535. -/
  | outOfRange
deriving DecidableEq, Repr

namespace Authority

/-- The most digits that a number is read from, leading zeros included. -/
def maxDigits : Nat := 4300

/-- The greatest port. -/
def maxPort : Nat := 65535

/-- A character that ends the authority of a written URI. -/
def isEnd (c : Char) : Bool := c == '/' || c == '?' || c == '#'

/-- The authority at the start of a text, which two slashes announce, and the rest. -/
def cut : Text → Text × Text
  | '/' :: '/' :: t => (t.takeWhile (!isEnd ·), t.dropWhile (!isEnd ·))
  | t => ([], t)

/-- Host and port: what follows the user information. -/
def hostPort (authority : Text) : Text := afterLast '@' authority

/-- The host as it is written, without brackets around it. -/
def writtenHost (authority : Text) : Text :=
  let t := hostPort authority
  if t.contains '[' then before ']' (after '[' t) else before ':' t

/-- The port as it is written; empty when there is none. -/
def writtenPort (authority : Text) : Text :=
  let t := hostPort authority
  if t.contains '[' then after ':' (after ']' (after '[' t)) else after ':' t

/-- The host in lower case, save for the zone of an address. -/
def host? (authority : Text) : Option Text :=
  match writtenHost authority with
  | [] => none
  | host => some (lower (host.takeWhile (· != '%')) ++ host.dropWhile (· != '%'))

/-- The number of the port, if there is a port. -/
def port? (authority : Text) : Except PortFault (Option Nat) :=
  match writtenPort authority with
  | [] => .ok none
  | port =>
    if !isDecimal port then .error (.notDecimal port)
    else if port.length > maxDigits then .error (.tooLong port.length)
    else if decimalValue port > maxPort then .error .outOfRange
    else .ok (some (decimalValue port))

/-- What is wrong with the host of an authority that holds brackets. -/
def addressFault? (host : Text) : Option AuthorityFault :=
  if host.head? = some 'v' then
    if Address.isLater host then none else some .laterAddress
  else if Address.isDotted host then some .dottedAddress
  else if Address.isGrouped host then none
  else some (.noAddress host)

/-- Text that stands before the opening bracket, or between the closing one and
the colon of the port. -/
def hasStrayText (authority : Text) : Bool :=
  let t := hostPort authority
  t.contains '[' &&
    (before '[' t != [] || (after ']' (after '[' t)).head?.any (· != ':'))

/-- What is wrong with the brackets of an authority or with what they hold. -/
def bracketFault? (authority : Text) : Option AuthorityFault :=
  if authority.contains '[' != authority.contains ']' then some .brackets
  else if !authority.contains '[' then none
  else if hasStrayText authority then some .brackets
  else addressFault? (writtenHost authority)

/-- What is wrong with an authority; the brackets are looked at first. -/
def fault? (authority : Text) : Option AuthorityFault :=
  match bracketFault? authority with
  | some fault => some fault
  | none => if authority.any isLookalike then some (.lookalike authority) else none

/-- The empty authority is without fault. -/
theorem fault?_nil : fault? [] = none := rfl

/-- An authority that names a host is not empty. -/
theorem ne_nil_of_host?_isSome {authority : Text} (h : (host? authority).isSome) :
    authority ≠ [] := by
  rintro rfl
  cases h

/-- An absent authority leaves the text as it is. -/
theorem cut_of_not_announced {t : Text} (h : ∀ r, t ≠ '/' :: '/' :: r) : cut t = ([], t) := by
  unfold cut
  split
  · rename_i r
    exact absurd rfl (h r)
  · rfl

end Authority

/-- The wording of a fault of the port. -/
def PortFault.message : PortFault → Text
  | notDecimal written => "Port could not be cast to integer value as ".toList ++ quoted written
  | tooLong digits =>
    "Exceeds the limit (".toList ++ Nat.toDigits 10 Authority.maxDigits ++
      " digits) for integer string conversion: value has ".toList ++ Nat.toDigits 10 digits ++
      " digits; use sys.set_int_max_str_digits() to increase the limit".toList
  | outOfRange => "Port out of range 0-65535".toList

end UriMount

import UriMount.Uri.Authority
import UriMount.Uri.Basic

/-!
# URIs that are handed in

A URI is handed in as written text or already taken apart. This module reads it,
says why that or any other operation fails, and puts segments behind its path.
-/

namespace UriMount

open Text

/-!
## Reading a written URI

A written URI is freed of leading controls and spaces and of every line break
and tab, and then cut at its marks. Only the authority can be faulty: the
components themselves exist for every text.
-/

namespace Uri

/-- A control or a space, which may not lead a written URI. -/
def isLeading (c : Char) : Bool := c.toNat ≤ 0x20

/-- A tab or a line break, which is passed over wherever it stands. -/
def isSkipped (c : Char) : Bool := c == '\t' || c == '\r' || c == '\n'

/-- The characters of a written URI that are read. -/
def significant (t : Text) : Text := (t.dropWhile isLeading).filter (!isSkipped ·)

/-- The components of a text without anything to pass over. -/
def cut (t : Text) : Uri :=
  let rest := (Scheme.cut t).2
  let tail := (Authority.cut rest).2
  { scheme := (Scheme.cut t).1
    authority := (Authority.cut rest).1
    path := before '?' (before '#' tail)
    query := after '?' (before '#' tail)
    fragment := after '#' tail }

/-- The components of a written URI, whatever its authority is. -/
def parts (t : Text) : Uri := cut (significant t)

/-- The components of a written URI, unless its authority is faulty. -/
def split (t : Text) : Except AuthorityFault Uri :=
  match Authority.fault? (parts t).authority with
  | some fault => .error fault
  | none => .ok (parts t)

/-- Tabs and line breaks are never read. -/
theorem isSkipped_of_mem_significant {t : Text} {c : Char} (h : c ∈ significant t) :
    isSkipped c = false := by
  simpa using (List.mem_filter.mp h).2

/-- A URI can be split exactly when its authority has no fault. -/
theorem split_eq_ok_iff {t : Text} {u : Uri} :
    split t = .ok u ↔ parts t = u ∧ Authority.fault? u.authority = none := by
  unfold split
  split
  · rename_i fault h
    simp only [reduceCtorEq, false_iff, not_and]
    rintro rfl
    simp [h]
  · rename_i h
    simp only [Except.ok.injEq]
    exact ⟨fun he => ⟨he, he ▸ h⟩, And.left⟩

end Uri

/-!
## The forms in which a URI is handed in

A URI may be handed in as written text or already taken apart, with or without
the parameters of its last segment. Messages show it as it was handed in.
-/

/-- A URI as it is handed in. -/
inductive Source
  /-- A written URI, whose surrounding blanks do not count. -/
  | text (written : Text)
  /-- Components, which are taken as they are. -/
  | split (uri : Uri)
  /-- Components with parameters, which are written out and read again. -/
  | params (uri : ParamUri)
deriving DecidableEq, Repr

namespace Source

/-- A record as messages show it: its name and its fields, each value quoted. -/
def showRecord (name : String) (fields : List (String × Text)) : Text :=
  name.toList ++ '(' :: [',', ' '].intercalate
    (fields.map fun field => field.1.toList ++ '=' :: quoted field.2) ++ [')']

/-- The source as messages show it: written text unchanged, components as a record. -/
def shown : Source → Text
  | text written => written
  | split u => showRecord "SplitResult" [("scheme", u.scheme), ("netloc", u.authority),
      ("path", u.path), ("query", u.query), ("fragment", u.fragment)]
  | params u => showRecord "ParseResult" [("scheme", u.scheme), ("netloc", u.authority),
      ("path", u.path), ("params", u.params), ("query", u.query), ("fragment", u.fragment)]

/-- The components that a source stands for. -/
def uri : Source → Except AuthorityFault Uri
  | text written => Uri.split (trimBlanks written)
  | split u => .ok u
  | params u => Uri.split u.render

/-- Components that are handed in are not looked at. -/
@[simp] theorem uri_split (u : Uri) : (split u).uri = .ok u := rfl

end Source

/-!
## Why an operation fails

Every failure is one of five causes, each with the wording of its message.
-/

/-- Why an operation gives no result. -/
inductive Error
  /-- A required argument is absent. -/
  | absent (argument : Text)
  /-- The authority of a written URI is faulty. -/
  | authority (fault : AuthorityFault)
  /-- The base names a port that is no port. -/
  | basePort (base : Source)
  /-- The base lacks a scheme or a host. -/
  | incompleteBase (base : Source)
  /-- A setting has no value, or a blank one. -/
  | unset (key : Text)
deriving DecidableEq, Repr

namespace Error

/-- The wording of a failure. -/
def message : Error → Text
  | absent argument => argument ++ " must not be None".toList
  | authority fault => fault.message
  | basePort base => "base_uri has an invalid port: ".toList ++ base.shown
  | incompleteBase base => "base_uri must have a scheme and host: ".toList ++ base.shown
  | unset key => "missing configuration value for '".toList ++ key ++ ['\'']

/-- A failure to read a written URI, as a failure of the operation. -/
def ofSplit {α : Type} : Except AuthorityFault α → Except Error α
  | .ok a => .ok a
  | .error fault => .error (.authority fault)

/-- An operation that reads a written URI succeeds when reading does. -/
@[simp] theorem ofSplit_eq_ok_iff {α : Type} {x : Except AuthorityFault α} {a : α} :
    ofSplit x = .ok a ↔ x = .ok a := by
  cases x <;> simp only [ofSplit, Except.ok.injEq, reduceCtorEq]

/-- An argument that must be there. -/
def require {α : Type} (argument : Text) : Option α → Except Error α
  | some a => .ok a
  | none => .error (.absent argument)

end Error

/-- The name of an argument that gives a URI, unless the caller has another one for it. -/
def uriArgument : Text := "uri".toList

/-- The name of an argument that gives a base. -/
def baseArgument : Text := "base_uri".toList

/-- The components of a URI that is handed in under the name of an argument. -/
def readUri (argument : Text) (source : Option Source) : Except Error Uri := do
  Error.ofSplit (← Error.require argument source).uri

/-- An absent URI is refused under the name of its argument. -/
@[simp] theorem readUri_none (argument : Text) :
    readUri argument none = .error (.absent argument) := rfl

/-- Components that are handed in are read without a failure. -/
@[simp] theorem readUri_split (argument : Text) (u : Uri) :
    readUri argument (some (.split u)) = .ok u := rfl

/-!
## Appending path segments

Segments are put behind the path of a base with one slash in front of each.
Slashes around a segment do not count, and neither do segments of slashes
alone, empty ones and absent ones. All other components stay.
-/

/-- A slash. -/
def isSlash (c : Char) : Bool := c == '/'

/-- The segments that contribute, without the slashes around them. -/
def cleanSegments (segments : List (Option Text)) : List Text :=
  (segments.filterMap (·.map (trim isSlash))).filter (· != [])

namespace Uri

/-- The URI with segments put behind its path; unchanged when none contributes. -/
def append (u : Uri) (segments : List (Option Text)) : Uri :=
  match cleanSegments segments with
  | [] => u
  | clean => { u with path := trimEnd isSlash u.path ++ '/' :: ['/'].intercalate clean }

/-- No segments leave a URI as it is. -/
@[simp] theorem append_nil (u : Uri) : u.append [] = u := rfl

/-- Only the path changes. -/
theorem append_eq (u : Uri) (segments : List (Option Text)) :
    u.append segments = { u with path := (u.append segments).path } := by
  unfold append
  split <;> rfl

@[simp] theorem append_scheme (u : Uri) (segments : List (Option Text)) :
    (u.append segments).scheme = u.scheme := by rw [append_eq]

@[simp] theorem append_authority (u : Uri) (segments : List (Option Text)) :
    (u.append segments).authority = u.authority := by rw [append_eq]

@[simp] theorem append_query (u : Uri) (segments : List (Option Text)) :
    (u.append segments).query = u.query := by rw [append_eq]

@[simp] theorem append_fragment (u : Uri) (segments : List (Option Text)) :
    (u.append segments).fragment = u.fragment := by rw [append_eq]

end Uri

/-- Appends segments to a base that is handed in. -/
def appendTo (base : Option Source) (segments : List (Option Text)) : Except Error Uri :=
  (readUri baseArgument base).map (·.append segments)

/-- Appends segments to a base that is handed in, and writes the result. -/
def appendToText (base : Option Source) (segments : List (Option Text)) : Except Error Text :=
  (appendTo base segments).map Uri.render

/-- A base that is read is extended and written. -/
theorem appendToText_of_readUri {base : Option Source} {u : Uri}
    (hu : readUri baseArgument base = .ok u) (segments : List (Option Text)) :
    appendToText base segments = .ok (u.append segments).render := by
  rw [appendToText, appendTo, hu]
  rfl

end UriMount

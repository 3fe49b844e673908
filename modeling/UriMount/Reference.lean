import UriMount.Source

/-!
# References

A reference is resolved against a base: its path is put behind the directory of
the base path, segment by segment, and what is missing is taken over from the
base. The standard gives a procedure of its own for this, on texts, which stands
at the end of this module.
-/

namespace UriMount

open Text

namespace Reference

/-!
## Path segments of a reference

A relative path is put behind the directory of the base path, and the dot
segments of the result are carried out: one dot stays in place and two dots
leave the segment before. Leaving the root goes nowhere.
-/

/-- The segment that stays in place. -/
def here : Text := ['.']

/-- The segment that leaves the one before it. -/
def up : Text := ['.', '.']

/-- The segments between slashes. -/
def segments (path : Text) : List Text := path.splitOn '/'

/-- The segments of a path up to its last slash; an unfinished last segment is dropped. -/
def directory (path : Text) : List Text :=
  if (segments path).getLast? = some [] then segments path else (segments path).dropLast

/-- Drops the empty segments between the first and the last one. -/
def dropInnerEmpty : List Text → List Text
  | [] => []
  | first :: rest => first :: rest.dropLast.filter (· != []) ++ rest.getLast?.toList

/-- The segments of a reference's path read below a base path. A rooted path
replaces the base path. -/
def merge (base path : Text) : List Text :=
  if path.head? = some '/' then segments path
  else dropInnerEmpty (directory base ++ segments path)

/-- Carries out one segment, with the segments so far given from their end. -/
def visit (visited : List Text) (segment : Text) : List Text :=
  if segment = up then visited.tail
  else if segment = here then visited
  else segment :: visited

/-- Carries out all dot segments. A dot segment at the end leaves a directory. -/
def withoutDots (segments : List Text) : List Text :=
  (segments.foldl visit []).reverse ++
    if segments.getLast? = some here ∨ segments.getLast? = some up then [[]] else []

/-- The path of a reference read below a base path. -/
def mergedPath (base path : Text) : Text :=
  match ['/'].intercalate (withoutDots (merge base path)) with
  | [] => ['/']
  | merged => merged

/-!
## Joining a reference to a base

A written reference is joined to a written base, giving a written URI again.
Only schemes with relative references take part; any other reference stands
for itself.
-/

/-- The URI that a reference of the base's own scheme stands for. -/
def target (base reference : ParamUri) : ParamUri :=
  if reference.authority ≠ [] then reference
  else if reference.path = [] ∧ reference.params = [] then
    { base with
      query := if reference.query = [] then base.query else reference.query
      fragment := reference.fragment }
  else
    { reference with
      authority := base.authority
      path := mergedPath base.path reference.path }

/-- The reference with the scheme of the base, if it has none of its own. -/
def inheritScheme (base reference : Uri) : Uri :=
  if reference.scheme = [] then { reference with scheme := base.scheme } else reference

/-- Joins a written reference to a written base. -/
def join (base reference : Text) : Except AuthorityFault Text :=
  if base = [] then .ok reference
  else if reference = [] then .ok base
  else do
    let b ← Uri.split base
    let r := inheritScheme b (← Uri.split reference)
    if r.scheme = b.scheme ∧ Scheme.isRelative r.scheme then
      return (target (.ofUri b) (.ofUri r)).render
    else return reference

end Reference

namespace Uri

/-- Resolves a written reference against a base. A base whose scheme has no
relative references takes part under a scheme that has, and lends its own scheme
to the result. -/
def resolve (base : Uri) (reference : Text) : Except AuthorityFault Uri :=
  if Scheme.isRelative base.scheme then do
    split (← Reference.join base.render reference)
  else do
    let r ← split reference
    if r.scheme ≠ [] then return r
    let standIn : Uri := { base with scheme := Scheme.http }
    let u ← split (← Reference.join standIn.render reference)
    return { u with scheme := base.scheme }

end Uri

namespace Reference

/-!
## Removing dot segments from a path text

Dot segments can also be removed without cutting the path into segments: an
input is read from its start, and what is kept moves to an output. This is the
procedure of RFC 3986, section 5.2.4.
-/

/-- The output without its last segment and the slash in front of it. -/
def dropLastSegment (output : Text) : Text := (throughLast '/' output).dropLast

/-- Reads the input and adds what is kept to the output. Each case looks at how
the input starts, in the order in which the cases stand. -/
def removeDots (output : Text) : Text → Text
  | '.' :: '.' :: '/' :: t => removeDots output t
  | '.' :: '/' :: t => removeDots output t
  | '/' :: '.' :: '/' :: t => removeDots output ('/' :: t)
  | ['/', '.'] => removeDots output ['/']
  | '/' :: '.' :: '.' :: '/' :: t => removeDots (dropLastSegment output) ('/' :: t)
  | ['/', '.', '.'] => removeDots (dropLastSegment output) ['/']
  | ['.'] => output
  | ['.', '.'] => output
  | [] => output
  | c :: t => removeDots (output ++ c :: before '/' t) (t.dropWhile (· != '/'))
termination_by t => t.length
decreasing_by
  all_goals simp only [List.length_cons]
  all_goals try omega
  exact Nat.lt_succ_of_le (List.dropWhile_sublist _).length_le

/-- The path without its dot segments. -/
def removeDotSegments (path : Text) : Text := removeDots [] path

/-!
## The standard target of a reference

RFC 3986, section 5.2, says which URI a reference stands for, component by
component. Here an absent component is an empty one.
-/

/-- A relative path behind the last slash of the base path, or behind the root of
a base with an authority and no path. -/
def mergeText (base : Uri) (path : Text) : Text :=
  if base.authority ≠ [] ∧ base.path = [] then '/' :: path
  else throughLast '/' base.path ++ path

/-- The path and the query of a reference without scheme and authority. -/
def standardPath (base reference : Uri) : Text × Text :=
  if reference.path = [] then
    (base.path, if reference.query = [] then base.query else reference.query)
  else if reference.path.head? = some '/' then
    (removeDotSegments reference.path, reference.query)
  else (removeDotSegments (mergeText base reference.path), reference.query)

/-- The URI that a reference stands for against a base. -/
def standardTarget (base reference : Uri) : Uri :=
  if reference.scheme ≠ [] then { reference with path := removeDotSegments reference.path }
  else if reference.authority ≠ [] then
    { reference with scheme := base.scheme, path := removeDotSegments reference.path }
  else
    { scheme := base.scheme
      authority := base.authority
      path := (standardPath base reference).1
      query := (standardPath base reference).2
      fragment := reference.fragment }

end Reference

end UriMount

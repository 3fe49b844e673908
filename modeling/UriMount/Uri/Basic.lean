import UriMount.Text.Basic

/-!
# URIs

A URI is held by its components, each without the mark that sets it off. An
absent component and an empty one are the same. This module holds the components,
the classes of schemes, and how a URI is written.
-/

namespace UriMount

open Text

/-- A URI by its components. Any texts may stand here: a URI that was put
together by hand need not be one that a written URI splits into. -/
structure Uri where
  /-- The text in front of the first colon, in lower case when it was read. -/
  scheme : Text
  /-- The text behind `//`: user information, host and port. -/
  authority : Text
  /-- The text between the authority and the query. -/
  path : Text
  /-- The text behind the first question mark. -/
  query : Text
  /-- The text behind the first number sign. -/
  fragment : Text
deriving DecidableEq, Repr

/-!
## Schemes

How a scheme is recognised at the start of a written URI, and the three
classes of schemes that decide how a URI is read against another one: schemes
with relative references, schemes whose URIs name an authority, and schemes
whose last path segment may carry parameters. The empty scheme is in all three.
-/

namespace Scheme

/-- The schemes whose references are resolved against a base. -/
def relative : List Text :=
  ["", "ftp", "http", "gopher", "nntp", "imap", "wais", "file", "https", "shttp", "mms",
    "prospero", "rtsp", "rtspu", "sftp", "svn", "svn+ssh", "ws", "wss"].map String.toList

/-- The schemes whose URIs name an authority. -/
def authoritative : List Text :=
  ["", "ftp", "http", "gopher", "nntp", "telnet", "imap", "wais", "file", "mms", "https",
    "shttp", "snews", "prospero", "rtsp", "rtspu", "rsync", "svn", "svn+ssh", "sftp", "nfs",
    "git", "git+ssh", "ws", "wss"].map String.toList

/-- The schemes whose last path segment may carry parameters. -/
def parametric : List Text :=
  ["", "ftp", "hdl", "prospero", "http", "imap", "https", "shttp", "rtsp", "rtspu", "sip",
    "sips", "mms", "sftp", "tel"].map String.toList

/-- References are resolved against a base of this scheme. -/
def isRelative (scheme : Text) : Bool := relative.contains scheme

/-- URIs of this scheme name an authority. -/
def isAuthoritative (scheme : Text) : Bool := authoritative.contains scheme

/-- The last path segment of URIs of this scheme may carry parameters. -/
def isParametric (scheme : Text) : Bool := parametric.contains scheme

/-- The scheme that stands in for one without relative references. -/
def http : Text := "http".toList

/-- A character that may stand in a scheme. -/
def isSchemeChar (c : Char) : Bool := c.isAlphanum || c == '+' || c == '-' || c == '.'

/-- A scheme is a letter followed by scheme characters. -/
def isScheme (t : Text) : Bool := t.head?.any Char.isAlpha && t.all isSchemeChar

/-- A written URI opens with a scheme and a colon. -/
def opens (t : Text) : Bool := t.contains ':' && isScheme (before ':' t)

/-- The scheme that a written URI opens with, in lower case, and the rest of it. -/
def cut (t : Text) : Text × Text :=
  if opens t then ((before ':' t).map Char.toLower, after ':' t) else ([], t)

/-- The stand-in scheme has relative references. -/
theorem isRelative_http : isRelative http = true := by decide

/-- A text that opens with no scheme is left whole. -/
theorem cut_of_not_opens {t : Text} (h : opens t = false) : cut t = ([], t) := by
  simp only [cut, h, Bool.false_eq_true, ite_false]

end Scheme

/-!
## Writing a URI

The components are written behind one another, each with its mark and empty
ones left out. An empty authority is still announced where the scheme expects
one, and a path behind an authority is rooted.
-/

namespace Uri

/-- Two slashes announce an authority: one that is there, or one that the scheme
expects, unless the path opens with two slashes itself. -/
def announcesAuthority (u : Uri) : Bool :=
  u.authority != [] ||
    (u.scheme != [] && Scheme.isAuthoritative u.scheme && !(['/', '/'].isPrefixOf u.path))

/-- A path behind an authority: a nonempty one starts with a slash. -/
def rooted (path : Text) : Text :=
  if path = [] ∨ path.head? = some '/' then path else '/' :: path

/-- Authority and path. -/
def renderHierarchy (u : Uri) : Text :=
  if u.announcesAuthority then '/' :: '/' :: u.authority ++ rooted u.path else u.path

/-- The scheme with its colon; nothing for the empty scheme. -/
def renderScheme (u : Uri) : Text := if u.scheme = [] then [] else u.scheme ++ [':']

/-- The URI as it is written. -/
def render (u : Uri) : Text :=
  u.renderScheme ++ u.renderHierarchy ++ marked '?' u.query ++ marked '#' u.fragment

/-- A URI with an authority shows it behind two slashes, with a rooted path. -/
theorem render_of_authority {u : Uri} (h : u.authority ≠ []) :
    u.render = u.renderScheme ++ ('/' :: '/' :: u.authority ++ rooted u.path) ++
      marked '?' u.query ++ marked '#' u.fragment := by
  have ha : u.announcesAuthority = true := by simp [announcesAuthority, h]
  simp only [render, renderHierarchy, ha, ite_true]

/-- A rooted path is left as it is. -/
theorem rooted_of_head? {path : Text} (h : path.head? = some '/') : rooted path = path := by
  simp only [rooted, h, or_true, ite_true]

end Uri

/-!
## Parameters of the last segment

Some schemes let the last segment of a path carry parameters behind a
semicolon. A URI with parameters holds them apart from the path.
-/

/-- A URI whose last path segment has its parameters taken off. -/
structure ParamUri extends Uri where
  /-- The text behind the first semicolon of the last segment. -/
  params : Text
deriving DecidableEq, Repr

namespace ParamUri

/-- Takes the parameters off, if the scheme lets the path carry any. -/
def ofUri (u : Uri) : ParamUri :=
  if Scheme.isParametric u.scheme then
    { u with
      path := throughLast '/' u.path ++ before ';' (afterLast '/' u.path)
      params := after ';' (afterLast '/' u.path) }
  else { u with params := [] }

/-- Puts the parameters back behind the path. -/
def flatten (u : ParamUri) : Uri := { u.toUri with path := u.path ++ marked ';' u.params }

/-- The URI as it is written. -/
def render (u : ParamUri) : Text := u.flatten.render

end ParamUri

end UriMount

import UriMount.Mount

/-!
# Questions and walks

A mount answers questions, and a walk leads from one URI to the next. Both are
made of single steps of which each may fail by itself.
-/

namespace UriMount

/-!
## Questions to a mount

What a mount can be asked for, with arguments that may be absent. Every
question is answered by itself: a failure concerns that question alone.
-/

/-- A question to a mount. -/
inductive Question
  /-- What a reference stands for. -/
  | resolve (reference : Option Text)
  /-- Where a path lies below the mount. -/
  | path (extra : Option Text)
  /-- The mount as a written URI. -/
  | render
  /-- The path of the mount. -/
  | basePath
  /-- The mount as a URI. -/
  | uri
deriving DecidableEq, Repr

/-- An answer of a mount. -/
inductive Answer
  /-- A written URI or a path. -/
  | text (t : Text)
  /-- A URI by its components. -/
  | uri (u : Uri)
deriving DecidableEq, Repr

/-- The name of the argument that gives a reference. -/
def referenceArgument : Text := "relative_path".toList

/-- The name of the argument that gives a path. -/
def pathArgument : Text := "extra_path".toList

namespace Mount

/-- Resolves a reference that must be there. -/
def resolve? (m : Mount) (reference : Option Text) : Except Error Uri := do
  Error.ofSplit (m.resolve (← Error.require referenceArgument reference))

/-- Puts a path below the mount that must be there. -/
def path? (m : Mount) (extra : Option Text) : Except Error Text :=
  (Error.require pathArgument extra).map m.path

/-- Answers a question. -/
def answer (m : Mount) : Question → Except Error Answer
  | .resolve reference => (m.resolve? reference).map .uri
  | .path extra => (m.path? extra).map .text
  | .render => .ok (.text m.render)
  | .basePath => .ok (.text m.basePath)
  | .uri => (Error.ofSplit m.uri).map .uri

end Mount

/-!
## Walks

A walk leads from one URI to the next by appending, resolving, reading again
and mounting. A step that fails leaves the walk where it is.
-/

/-- One step of a walk. -/
inductive Step
  /-- Appends segments. -/
  | append (segments : List (Option Text))
  /-- Resolves a reference below the mount at the current URI. -/
  | resolve (reference : Option Text)
  /-- Resolves a reference against the current URI itself. -/
  | follow (reference : Text)
  /-- Goes to the mount at the current URI. -/
  | mount
  /-- Writes the current URI and reads it again. -/
  | reread
  /-- Goes to a path below the mount at the current URI, keeping all other components. -/
  | path (extra : Option Text)
deriving DecidableEq, Repr

namespace Step

/-- Where a step leads from a URI. -/
def apply (u : Uri) : Step → Except Error Uri
  | append segments => appendTo (some (.split u)) segments
  | resolve reference => do (← Mount.ofSource (some (.split u))).resolve? reference
  | follow reference => Error.ofSplit (u.resolve reference)
  | mount => do Error.ofSplit (← Mount.ofSource (some (.split u))).uri
  | reread => readUri uriArgument (some (.text u.render))
  | path extra => do
    let path ← (← Mount.ofSource (some (.split u))).path? extra
    return { u with path }

end Step

/-- The outcome of every step of a walk. -/
def walk (u : Uri) : List Step → List (Except Error Uri)
  | [] => []
  | step :: steps =>
    match step.apply u with
    | .ok v => .ok v :: walk v steps
    | .error e => .error e :: walk u steps

end UriMount

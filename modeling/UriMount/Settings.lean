import UriMount.Mount

/-!
# Where the base is configured

The base of a mount is looked up under a key, in a table or among the variables
of an environment. A key becomes the name of a variable by putting the stem of
all names in front, in upper case and with underscores for points.
-/

namespace UriMount

open Text

/-- A source of configured values. -/
inductive Settings
  /-- Values under their keys. -/
  | table (value : Text → Option Text)
  /-- The variables of an environment, whose names begin with a common stem. -/
  | environment (stem : Text) (value : Text → Option Text)

namespace Settings

/-- The name of the variable that holds the value of a key. -/
def variableName (stem key : Text) : Text :=
  (upper (stem ++ '_' :: key)).map fun c => if c = '.' then '_' else c

/-- The value of a key. -/
def get? : Settings → Text → Option Text
  | table value, key => value key
  | environment stem value, key => value (variableName stem key)

/-- The names of the variables that are asked for on the way to a value. -/
def asked : Settings → Text → List Text
  | table _, _ => []
  | environment stem _, key => [variableName stem key]

/-- The key of the base, unless the caller has another one. -/
def defaultKey : Text := "base_uri".toList

/-- The mount at the configured base. A blank value counts as absent. -/
def mount (settings : Settings) (key : Text) : Except Error Mount :=
  match settings.get? key with
  | none => .error (.unset key)
  | some value =>
    if trimBlanks value = [] then .error (.unset key) else Mount.ofSource (some (.text value))

/-- A value that is not blank is the base of the mount. -/
theorem mount_of_get? {settings : Settings} {key value : Text}
    (h : settings.get? key = some value) (hne : trimBlanks value ≠ []) :
    settings.mount key = Mount.ofSource (some (.text value)) := by
  simp only [mount, h, hne, ite_false]

end Settings

end UriMount

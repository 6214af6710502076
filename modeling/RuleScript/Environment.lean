/-
  RuleScript.Environment
  ──────────────────────
  **The values that a script can address.**

  An environment maps root names to host values.  A value is lent by the program
  that runs the script, and given back at the end, or owned by the environment,
  like the variables that a script declares.  Root names are matched exactly;
  everything below a root is matched as `Host.Path` says.
-/
import RuleScript.Host.Path
import RuleScript.Text.Split

namespace RuleScript

/-! ## §1. Paths. -/

/-- The name of a root and a path below it. -/
structure RootPath where
  root : String
  below : List String
  deriving Repr, DecidableEq

/-- The path that a text spells: its parts between dots. -/
def RootPath.ofText (s : String) : RootPath :=
  match Text.fields '.' s.toList with
  | root :: below => ⟨String.ofList root, below.map String.ofList⟩
  | [] => ⟨"", []⟩

/-- All segments, the root's name first. -/
def RootPath.segments (path : RootPath) : List String := path.root :: path.below

/-! ## §2. Environments. -/

/-- A value that a root name stands for. -/
structure Root where
  host : Host
  lent : Bool
  deriving Repr

/-- The roots by name, the record types that have an empty value, and the lent
values whose root has been taken away. -/
structure Environment where
  catalog : Host.Catalog
  roots : List (String × Root)
  released : List (String × Host)
  deriving Repr

namespace Environment

/-- No root. -/
def empty (catalog : Host.Catalog) : Environment := ⟨catalog, [], []⟩

/-- The root with the given name. -/
def find? (env : Environment) (name : String) : Option Root := env.roots.lookup name

/-- The value of the root with the given name. -/
def host? (env : Environment) (name : String) : Option Host := (env.find? name).map (·.host)

/-- There is a root with the given name. -/
def contains (env : Environment) (name : String) : Bool := (env.find? name).isSome

/-- The names of all roots, in order. -/
def names (env : Environment) : List String := env.roots.map (·.1)

/-- The values that go back to the program once the environment has gone. -/
def returned (env : Environment) : List (String × Host) :=
  env.released ++ env.roots.filterMap fun (name, root) =>
    if root.lent then some (name, root.host) else none

/-- Keeps a lent value whose root is about to go. -/
def release (env : Environment) (name : String) : Environment :=
  match env.find? name with
  | some ⟨host, true⟩ => { env with released := env.released ++ [(name, host)] }
  | _ => env

/-- Makes `name` the root of a value, in place of what it stood for. -/
def bind (env : Environment) (name : String) (root : Root) : Environment :=
  let env := env.release name
  { env with roots := Sorted.put name root env.roots }

/-- Lends a value to the environment. -/
def lend (env : Environment) (name : String) (host : Host) : Environment :=
  env.bind name ⟨host, true⟩

/-- Gives a value to the environment. -/
def own (env : Environment) (name : String) (host : Host) : Environment :=
  env.bind name ⟨host, false⟩

/-- Takes a root away, if there is one. -/
def remove (env : Environment) (name : String) : Environment :=
  let env := env.release name
  { env with roots := Sorted.drop name env.roots }

/-- Replaces the value of a root that there is. -/
def setHost (env : Environment) (name : String) (root : Root) (host : Host) : Environment :=
  { env with roots := Sorted.set name { root with host := host } env.roots }

/-! ## §3. Access by path. -/

/-- The value that a path points at. -/
def read (env : Environment) (path : String) : Except PathError Value :=
  let path := RootPath.ofText path
  match env.find? path.root with
  | none => .error (.unknownRoot path.root)
  | some root => root.host.read path.below

/-- Writes a text at the end of a path.  A failed write may have filled absent
optionals on its way. -/
def write (env : Environment) (path text : String) : Environment × Option PathError :=
  let path := RootPath.ofText path
  match env.find? path.root with
  | none => (env, some (.unknownRoot path.root))
  | some root =>
    let written := root.host.write env.catalog text path.below
    (env.setHost path.root root written.host, written.failure)

/-- Clears what a path points at. -/
def clear (env : Environment) (path : String) : Environment × Option PathError :=
  let path := RootPath.ofText path
  match env.find? path.root with
  | none => (env, some (.unknownRoot path.root))
  | some root =>
    let cleared := root.host.clear path.below
    (env.setHost path.root root cleared.host, cleared.failure)

end Environment

end RuleScript

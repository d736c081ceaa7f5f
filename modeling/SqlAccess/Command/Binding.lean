import SqlAccess.Command.Basic
import SqlAccess.Parameter.Source

/-!
# Binding arguments

Arguments are bound to a command under the names of its placeholders. A single value becomes one
parameter. The items of a list become one parameter each, and the first placeholder of the list's
name is replaced by theirs, which is what `IN (…)` needs.
-/

namespace SqlAccess

/-- The full name of item `i` of the list called `name`. -/
def itemName (marker : Char) (name : String) (i : Nat) : String :=
  fullName marker (name ++ "_" ++ Nat.repr i)

/-- What takes the place of a list's placeholder. `NULL` for an empty list keeps `IN (…)` valid and
matches nothing. -/
def listReference (marker : Char) (name : String) (count : Nat) : String :=
  if count = 0 then "NULL" else ", ".intercalate ((List.range count).map (itemName marker name))

namespace Command

def bindScalar (c : Command) (marker : Char) (name : String) (value : Value) : Command :=
  c.push (.input (fullName marker name) value)

/-- Binds every item and rewrites the first placeholder called `name`, if there is one. -/
def bindList (c : Command) (marker : Char) (name : String) (items : List Value) : Command :=
  let parameters := items.mapIdx fun i v => Parameter.input (itemName marker name i) v
  let rewritten :=
    replaceFirst c.text marker (fullName marker name) (listReference marker name items.length)
  { c with parameters := c.parameters ++ parameters, text := rewritten.getD c.text }

def bindArgument (c : Command) (marker : Char) (name : String) : Argument → Command
  | .scalar v => c.bindScalar marker name v
  | .list items => c.bindList marker name items

/-- Binds every property in turn. -/
def bindProperties (c : Command) (marker : Char) (properties : NamedArguments) : Command :=
  properties.foldl (fun c (name, a) => c.bindArgument marker name a) c

/-- Attaches ready parameters; names that lack the marker get it. -/
def bindParameters (c : Command) (marker : Char) (ps : List Parameter) : Command :=
  { c with parameters := c.parameters ++ ps.map (·.withMarker marker) }

def bindSource (c : Command) (marker : Char) : ParameterSource → Command
  | .empty => c
  | .shared properties => c.bindProperties marker properties
  | .owned properties => c.bindProperties marker properties
  | .parameters ps => c.bindParameters marker ps

end Command

end SqlAccess

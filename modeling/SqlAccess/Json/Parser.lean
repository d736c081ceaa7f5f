import SqlAccess.Json.Token
import SqlAccess.Json.Written

/-!
# Reading JSON

A machine with a stack of open containers builds a document from its tokens; nothing may follow
the document. `written?` gives the document as it is written, `parse` what it means, where
containers deeper than a limit are refused.
-/

namespace SqlAccess

namespace Json

/-! ## The machine -/

/-- An open container: its content so far, for an object with the name that waits for a value. -/
inductive Frame
  | array (reversed : List Written)
  | object (reversed : List (Option String × Written)) (name : Option String)

/-- What may come next. -/
inductive Expectation
  /-- a value, or the end of the array if it holds none so far -/
  | value (mayClose : Bool)
  /-- the name of a member, or the end of the object if it holds none so far -/
  | name (mayClose : Bool)
  | colon
  /-- a comma or the end of the container -/
  | separator
  /-- nothing: the document is complete -/
  | nothing (document : Written)

/-- The machine behind a complete value. -/
def complete (value : Written) : List Frame → List Frame × Expectation
  | [] => ([], .nothing value)
  | .array reversed :: stack => (.array (value :: reversed) :: stack, .separator)
  | .object reversed name :: stack =>
    (.object ((name, value) :: reversed) name :: stack, .separator)

/-- One step of the machine. -/
def step (stack : List Frame) (e : Expectation) (t : Token) : Option (List Frame × Expectation) :=
  match e, t, stack with
  | .value _, .scalar v, stack => some (complete (.scalar v) stack)
  | .value _, .string s, stack => some (complete (.scalar (s.map .string)) stack)
  | .value _, .openArray, stack => some (.array [] :: stack, .value true)
  | .value _, .openObject, stack => some (.object [] none :: stack, .name true)
  | .value true, .closeArray, .array reversed :: stack =>
    some (complete (.array reversed.reverse) stack)
  | .name _, .string name, .object reversed _ :: stack =>
    some (.object reversed name :: stack, .colon)
  | .name true, .closeObject, .object reversed _ :: stack =>
    some (complete (.object reversed.reverse) stack)
  | .colon, .colon, stack => some (stack, .value false)
  | .separator, .comma, .array reversed :: stack => some (.array reversed :: stack, .value false)
  | .separator, .comma, .object reversed name :: stack =>
    some (.object reversed name :: stack, .name false)
  | .separator, .closeArray, .array reversed :: stack =>
    some (complete (.array reversed.reverse) stack)
  | .separator, .closeObject, .object reversed _ :: stack =>
    some (complete (.object reversed.reverse) stack)
  | _, _, _ => none

def build (stack : List Frame) (e : Expectation) : List Token → Option Written
  | [] =>
    match e with
    | .nothing document => some document
    | _ => none
  | t :: rest => do
    let (stack, e) ← step stack e t
    build stack e rest

/-! ## Reading -/

/-- The document in a text as it is written. -/
def written? (s : String) : Option Written := do
  build [] (.value false) (← tokens? s.toList)

/-- Reads a document with at most `limit` containers inside one another. -/
def parseWithin (limit : Nat) (s : String) : Option Json := do
  let w ← written? s
  guard (w.depth ≤ limit)
  w.document?

/-- How many containers a document may have inside one another. -/
def depthLimit : Nat := 127

def parse (s : String) : Option Json :=
  parseWithin depthLimit s

end Json

end SqlAccess

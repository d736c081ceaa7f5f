import SqlAccess.SqlText.Lexeme

/-!
# Named placeholders

`scan` lists the placeholders of a text with their byte ranges, in text order. Names carry the
marker when they are parameter names and lose it when they are looked up: `logicalName`.
-/

namespace SqlAccess

/-- A placeholder in a text: the bytes from `start` to `stop`, marker included, and its name,
marker excluded. -/
structure Placeholder where
  start : Nat
  stop : Nat
  name : String
  deriving DecidableEq, Repr

/-- The length of a text in UTF-8. -/
def byteLength : List Char → Nat
  | [] => 0
  | c :: rest => c.utf8Size + byteLength rest

/-- The placeholders among `lexemes`, of which the first starts at byte `start`. -/
def placeholdersFrom (marker : Char) (start : Nat) : List Lexeme → List Placeholder
  | [] => []
  | l :: rest =>
    let stop := start + byteLength (l.text marker)
    match l with
    | .placeholder name => ⟨start, stop, String.ofList name⟩ :: placeholdersFrom marker stop rest
    | _ => placeholdersFrom marker stop rest

def scan (sql : String) (marker : Char) : List Placeholder :=
  placeholdersFrom marker 0 (lexemes marker sql.toList)

/-! ## Names with and without the marker -/

/-- `name` without the marker it may start with. -/
def stripMarker (marker : Char) : List Char → List Char
  | [] => []
  | c :: rest => if c = marker then rest else c :: rest

def logicalName (marker : Char) (name : String) : String :=
  String.ofList (stripMarker marker name.toList)

/-- `name` with the marker put in front. -/
def fullName (marker : Char) (name : String) : String :=
  String.ofList (marker :: name.toList)

theorem byteLength_append (s t : List Char) :
    byteLength (s ++ t) = byteLength s + byteLength t := by
  induction s with
  | nil => simp [byteLength]
  | cons c s ih => simp [byteLength, ih, Nat.add_assoc]

theorem byteLength_eq_utf8ByteSize (s : List Char) :
    byteLength s = (String.ofList s).utf8ByteSize := by
  induction s with
  | nil => rfl
  | cons c s ih =>
    rw [String.ofList_cons, String.utf8ByteSize_append, String.utf8ByteSize_singleton, ← ih]
    rfl

theorem byteLength_toList (s : String) : byteLength s.toList = s.utf8ByteSize := by
  rw [byteLength_eq_utf8ByteSize, String.ofList_toList]

theorem logicalName_fullName (marker : Char) (name : String) :
    logicalName marker (fullName marker name) = name := by
  simp [logicalName, fullName, stripMarker]

end SqlAccess

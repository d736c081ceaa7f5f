import SqlAccess.Number.Layout

/-!
# JSON documents

A document keeps the members of its objects in the order in which their names first appeared. A
number is a non-negative integer of 64 bits, a negative one, or a finite float.
-/

namespace SqlAccess

def Binary64.isFinite (x : Binary64) : Bool :=
  match x.datum with
  | .finite _ _ _ => true
  | _ => false

inductive JsonNumber
  | unsigned (n : UInt64)
  | negative (n : Int64) (lt_zero : n < 0)
  | float (x : Binary64) (finite : x.isFinite = true)
  deriving DecidableEq, Repr

inductive Json
  | null
  | bool (b : Bool)
  | number (n : JsonNumber)
  | string (s : String)
  | array (items : List Json)
  | object (members : List (String × Json))
  deriving Repr

namespace JsonNumber

/-- The number that holds the integer `n`. -/
def ofInt64 (n : Int64) : JsonNumber :=
  if h : n < 0 then .negative n h else .unsigned n.toUInt64

/-- The number that holds a float, unless it is a NaN or infinite. -/
def ofFloat? (x : Binary64) : Option JsonNumber :=
  if h : x.isFinite = true then some (.float x h) else none

end JsonNumber

namespace Json

/-- Members with `name` set to `value`: in its place if the name is there, else at the end. -/
def putMember (name : String) (value : Json) : List (String × Json) → List (String × Json)
  | [] => [(name, value)]
  | (n, v) :: rest =>
    if n = name then (n, value) :: rest else (n, v) :: putMember name value rest

def member? (name : String) : Json → Option Json
  | .object members => members.lookup name
  | _ => none

theorem keys_putMember (name : String) (value : Json) (members : List (String × Json)) :
    (putMember name value members).map (·.1) =
      if name ∈ members.map (·.1) then members.map (·.1) else members.map (·.1) ++ [name] := by
  induction members with
  | nil => rfl
  | cons m rest ih =>
    obtain ⟨n, v⟩ := m
    by_cases h : n = name
    · simp [putMember, h]
    · have h' : name ≠ n := fun e => h e.symm
      simp only [putMember, h, if_false, List.map_cons, ih, List.mem_cons, h', false_or]
      split <;> simp

end Json

end SqlAccess

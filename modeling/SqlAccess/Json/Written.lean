import SqlAccess.Json.Basic

/-!
# Documents as they are written

What the grammar of JSON gives before its meaning is taken: a member may come twice, and a string
or number may stand for nothing. `document?` is the meaning. It needs every part to have one, and
of several values of a member takes the last, at the place of the first.
-/

namespace SqlAccess

namespace Json

inductive Written
  /-- a scalar, whose value is missing if it stands for nothing -/
  | scalar (value : Option Json)
  | array (items : List Written)
  | object (members : List (Option String × Written))
  deriving Repr

namespace Written

mutual

/-- How many containers stand inside one another. -/
def depth : Written → Nat
  | .scalar _ => 0
  | .array items => itemsDepth items + 1
  | .object members => membersDepth members + 1

def itemsDepth : List Written → Nat
  | [] => 0
  | w :: rest => max (depth w) (itemsDepth rest)

def membersDepth : List (Option String × Written) → Nat
  | [] => 0
  | (_, w) :: rest => max (depth w) (membersDepth rest)

end

mutual

/-- The document that is meant. -/
def document? : Written → Option Json
  | .scalar value => value
  | .array items => (items? items).map .array
  | .object members => (members? [] members).map .object

def items? : List Written → Option (List Json)
  | [] => some []
  | w :: rest => do
    let item ← document? w
    return item :: (← items? rest)

/-- `done` with further members put into it. -/
def members? (done : List (String × Json)) :
    List (Option String × Written) → Option (List (String × Json))
  | [] => some done
  | (name, w) :: rest => do
    let value ← document? w
    members? (putMember (← name) value done) rest

end

end Written

end Json

end SqlAccess

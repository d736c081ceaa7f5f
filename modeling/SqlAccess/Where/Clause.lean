import SqlAccess.Text.Blank

/-!
# WHERE clauses

A clause is a list of tokens, one for each condition or group it was given. The first token is
the condition itself; each later one starts with its connector. Blank conditions are dropped, and
so are groups in which nothing is left.
-/

namespace SqlAccess

structure WhereClause where
  tokens : List String
  deriving DecidableEq, Repr

namespace WhereClause

def empty : WhereClause := ⟨[]⟩

def isEmpty (w : WhereClause) : Bool := w.tokens.isEmpty

def connector (useOr : Bool) : String :=
  if useOr then "OR" else "AND"

/-- The condition, unless it is absent or blank. -/
def nonBlank (condition : Option String) : Option String :=
  condition.filter fun c => !Text.isBlankText c

/-- The tokens separated by single blanks. -/
def body (w : WhereClause) : String :=
  " ".intercalate w.tokens

/-- The clause with its keyword; empty if there are no tokens. -/
def text (w : WhereClause) : String :=
  if w.isEmpty then "" else "WHERE " ++ w.body

instance : ToString WhereClause := ⟨text⟩

/-- Appends one token. The connector of the first one is dropped. -/
def push (w : WhereClause) (body : String) (negate useOr : Bool) : WhereClause :=
  let negated := if negate then "NOT " ++ body else body
  let token := if w.isEmpty then negated else connector useOr ++ " " ++ negated
  ⟨w.tokens ++ [token]⟩

/-- `body` in parentheses. -/
def parenthesized (body : String) : String :=
  "(" ++ body ++ ")"

/-! ## The three kinds of steps -/

/-- Appends a condition. -/
def add (w : WhereClause) (condition : Option String) (negate useOr : Bool) : WhereClause :=
  match nonBlank condition with
  | some c => w.push c negate useOr
  | none => w

/-- Appends conditions as one group, joined inside by `OR` or by `AND`. -/
def addGroup (w : WhereClause) (conditions : List (Option String))
    (negate useOr innerOr : Bool) : WhereClause :=
  match conditions.filterMap nonBlank with
  | [] => w
  | parts =>
    w.push (parenthesized ((" " ++ connector innerOr ++ " ").intercalate parts)) negate useOr

/-- Appends another clause as one group. -/
def addClause (w child : WhereClause) (negate useOr : Bool) : WhereClause :=
  if child.body.isEmpty then w else w.push (parenthesized child.body) negate useOr

/-! ## Steps by name -/

def and (w : WhereClause) (condition : Option String) : WhereClause :=
  w.add condition false false

def andNot (w : WhereClause) (condition : Option String) : WhereClause :=
  w.add condition true false

def or (w : WhereClause) (condition : Option String) : WhereClause :=
  w.add condition false true

def orNot (w : WhereClause) (condition : Option String) : WhereClause :=
  w.add condition true true

/-- `AND (a OR b …)`. -/
def andOrGroup (w : WhereClause) (conditions : List (Option String)) : WhereClause :=
  w.addGroup conditions false false true

/-- `AND NOT (a OR b …)`. -/
def andOrNotGroup (w : WhereClause) (conditions : List (Option String)) : WhereClause :=
  w.addGroup conditions true false true

/-- `OR (a AND b …)`. -/
def orAndGroup (w : WhereClause) (conditions : List (Option String)) : WhereClause :=
  w.addGroup conditions false true false

/-- `OR NOT (a AND b …)`. -/
def orAndNotGroup (w : WhereClause) (conditions : List (Option String)) : WhereClause :=
  w.addGroup conditions true true false

/-- `AND (…)` around the text of another clause. -/
def andClause (w child : WhereClause) : WhereClause :=
  w.addClause child false false

/-- `AND NOT (…)`. -/
def andNotClause (w child : WhereClause) : WhereClause :=
  w.addClause child true false

/-- `OR (…)`. -/
def orClause (w child : WhereClause) : WhereClause :=
  w.addClause child false true

/-- `OR NOT (…)`. -/
def orNotClause (w child : WhereClause) : WhereClause :=
  w.addClause child true true

end WhereClause

end SqlAccess

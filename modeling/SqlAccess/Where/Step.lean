import SqlAccess.Where.Clause

/-!
# Programs that build clauses

A step appends a condition, a group, or a clause built by steps of its own, or clears the clause;
a guard switches it off. `Step.runAll` gives the clause that a list of steps builds.
-/

namespace SqlAccess

/-- When a step is taken. -/
inductive Guard
  | always
  | flag (enabled : Bool)
  /-- if every flag is set; never if there are none given -/
  | every (flags : Option (List Bool))
  deriving DecidableEq, Repr

def Guard.isMet : Guard → Bool
  | always => true
  | flag enabled => enabled
  | every flags => (flags.map (·.all id)).getD false

inductive Step
  | condition (guard : Guard) (condition : Option String) (negate useOr : Bool)
  | group (guard : Guard) (conditions : List (Option String)) (negate useOr innerOr : Bool)
  | nested (guard : Guard) (steps : List Step) (negate useOr : Bool)
  | clear

namespace Step

instance : Inhabited Step := ⟨clear⟩

mutual

def run (w : WhereClause) : Step → WhereClause
  | .condition guard c negate useOr => if guard.isMet then w.add c negate useOr else w
  | .group guard cs negate useOr innerOr =>
    if guard.isMet then w.addGroup cs negate useOr innerOr else w
  | .nested guard steps negate useOr =>
    if guard.isMet then w.addClause (runAll .empty steps) negate useOr else w
  | .clear => .empty

/-- The clause after all of `steps`. -/
def runAll (w : WhereClause) : List Step → WhereClause
  | [] => w
  | step :: rest => runAll (run w step) rest

end

end Step

end SqlAccess

import SqlAccess.Text.Words

/-!
# Naming rules

How the name of a field becomes the name of a column or of a parameter.
-/

namespace SqlAccess

inductive NamingRule
  | lower
  | upper
  | snake
  | screamingSnake
  | camel
  | pascal
  deriving DecidableEq, Repr

namespace NamingRule

/-- The rule that a declaration calls by `name`. -/
def ofName? : String → Option NamingRule
  | "lowercase" => some lower
  | "UPPERCASE" => some upper
  | "snake_case" => some snake
  | "SCREAMING_SNAKE_CASE" => some screamingSnake
  | "camelCase" => some camel
  | "PascalCase" => some pascal
  | _ => none

def apply (rule : NamingRule) (name : String) : String :=
  let words := Text.words name.toList
  match rule with
  | lower => Text.lowercased name
  | upper => Text.uppercased name
  | snake => String.ofList (['_'].intercalate (words.map Text.lowerWord))
  | screamingSnake => String.ofList (['_'].intercalate (words.map Text.upperWord))
  | pascal => String.ofList (words.flatMap Text.capitalWord)
  | camel =>
    match words with
    | [] => ""
    | first :: rest => String.ofList (Text.lowerWord first ++ rest.flatMap Text.capitalWord)

end NamingRule

end SqlAccess

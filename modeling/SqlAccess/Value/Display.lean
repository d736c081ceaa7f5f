import SqlAccess.Json.Printer
import SqlAccess.Value.Basic

/-!
# Texts of values

`display` is the plain text of a value; `literal` the form in which it stands in logged SQL, where
texts and points in time are quoted and a quote inside a text is written twice. Literals are for
reading only and are never sent.
-/

namespace SqlAccess

namespace Value

def display : Value → String
  | null => "NULL"
  | bool b => if b then "true" else "false"
  | int16 n => toString n.toInt
  | int32 n => toString n.toInt
  | int64 n => toString n.toInt
  | float32 x => x.display
  | float64 x => x.display
  | text s => s
  | bytes b => String.ofList ('\\' :: 'x' :: Text.hexChars b)
  | uuid u => u.text
  | timestamp t => t.text
  | timestamptz t => t.text
  | date d => d.text
  | time t => t.text
  | json document => document.text

/-- Every quote written twice. -/
def doubleQuotes (s : List Char) : List Char :=
  s.flatMap fun c => if c = '\'' then ['\'', '\''] else [c]

/-- `s` between single quotes. -/
def quoted (s : List Char) : String :=
  String.ofList ('\'' :: s ++ ['\''])

def literal : Value → String
  | null => "NULL"
  | text s => quoted (doubleQuotes s.toList)
  | timestamp t => quoted t.millisText.toList
  | timestamptz t => quoted t.utc.millisText.toList
  | date d => quoted (DateTime.atMidnight d).millisText.toList
  | time t => quoted t.millisChars
  | uuid u => quoted u.text.toList
  | bool b => if b then "1" else "0"
  | v => v.display

end Value

end SqlAccess

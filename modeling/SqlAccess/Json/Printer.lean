import SqlAccess.Json.Basic
import SqlAccess.Text.Hex

/-!
# Writing JSON

Documents are written without blanks. A float is written with the fewest digits, with a fraction
in any case, and with an exponent from `10 ^ 16` up and below `10 ^ -5`. In strings only quotes,
backslashes and control characters are escaped.
-/

namespace SqlAccess

namespace Json

/-- Floats as documents write them. -/
def floatLayout : FloatLayout := ⟨some (-5, 16), ".0", .toEven⟩

def numberText : JsonNumber → String
  | .unsigned n => Nat.repr n.toNat
  | .negative n _ => toString n.toInt
  | .float x _ => floatLayout.text .binary64 x.datum

def escapeChar (c : Char) : List Char :=
  match c with
  | '"' => ['\\', '"']
  | '\\' => ['\\', '\\']
  | '\n' => ['\\', 'n']
  | '\r' => ['\\', 'r']
  | '\t' => ['\\', 't']
  | '\x08' => ['\\', 'b']
  | '\x0c' => ['\\', 'f']
  | c => if c.toNat < 0x20 then '\\' :: 'u' :: '0' :: '0' :: Text.hexPair c.toNat else [c]

def quoted (s : String) : List Char :=
  '"' :: s.toList.flatMap escapeChar ++ ['"']

mutual

def chars : Json → List Char
  | .null => ['n', 'u', 'l', 'l']
  | .bool b => if b then ['t', 'r', 'u', 'e'] else ['f', 'a', 'l', 's', 'e']
  | .number n => (numberText n).toList
  | .string s => quoted s
  | .array items => '[' :: itemChars items ++ [']']
  | .object members => '\x7b' :: memberChars members ++ ['\x7d']

/-- The items of an array, separated by commas. -/
def itemChars : List Json → List Char
  | [] => []
  | [item] => chars item
  | item :: rest => chars item ++ ',' :: itemChars rest

/-- The members of an object, separated by commas. -/
def memberChars : List (String × Json) → List Char
  | [] => []
  | [(name, value)] => quoted name ++ ':' :: chars value
  | (name, value) :: rest => quoted name ++ ':' :: chars value ++ ',' :: memberChars rest

end

/-- The document as text. -/
def text (j : Json) : String :=
  String.ofList j.chars

end Json

end SqlAccess

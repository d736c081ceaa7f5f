import SqlAccess.Json.Basic
import SqlAccess.Text.Digits
import SqlAccess.Text.Hex

/-!
# Tokens of JSON

Tokens are told apart strictly: blanks are space, tab, line feed and carriage return, numbers have
no superfluous zeros, and strings hold no raw control characters. A well-formed string or number
still stands for nothing if it holds half a surrogate pair or lies beyond all floats; its token
then has no value.
-/

namespace SqlAccess

namespace Json

/-! ## Strings -/

/-- A character of a string, or a sixteen-bit unit written as an escape. -/
inductive StringItem
  | char (c : Char)
  | unit (n : Nat)
  deriving DecidableEq, Repr

def hexUnit? (a b c d : Char) : Option Nat := do
  let a ← Text.hexValue? a
  let b ← Text.hexValue? b
  let c ← Text.hexValue? c
  let d ← Text.hexValue? d
  return ((a * 16 + b) * 16 + c) * 16 + d

/-- The character that a backslash and `c` stand for. -/
def escaped? (c : Char) : Option Char :=
  match c with
  | '"' | '\\' | '/' => some c
  | 'b' => some '\x08'
  | 'f' => some '\x0c'
  | 'n' => some '\n'
  | 'r' => some '\r'
  | 't' => some '\t'
  | _ => none

/-- The items of a string whose opening quote has been read, and the text behind its end. -/
def splitString : List Char → Option (List StringItem × List Char)
  | [] => none
  | '"' :: rest => some ([], rest)
  | '\\' :: 'u' :: a :: b :: c :: d :: rest => do
    let n ← hexUnit? a b c d
    let (items, rest) ← splitString rest
    return (.unit n :: items, rest)
  | '\\' :: e :: rest => do
    let c ← escaped? e
    let (items, rest) ← splitString rest
    return (.char c :: items, rest)
  | c :: rest => do
    guard (0x20 ≤ c.toNat ∧ c ≠ '\\')
    let (items, rest) ← splitString rest
    return (.char c :: items, rest)

/-- The characters of a string: an escaped unit is one, two surrogates in order are another. -/
def joinUnits : List StringItem → Option (List Char)
  | [] => some []
  | .char c :: rest => (c :: ·) <$> joinUnits rest
  | .unit n :: rest =>
    if n < 0xD800 ∨ 0xDFFF < n then (Char.ofNat n :: ·) <$> joinUnits rest
    else if 0xDC00 ≤ n then none
    else
      match rest with
      | .unit low :: rest =>
        if 0xDC00 ≤ low ∧ low ≤ 0xDFFF then
          (Char.ofNat (0x10000 + (n - 0xD800) * 0x400 + (low - 0xDC00)) :: ·) <$> joinUnits rest
        else none
      | _ => none

/-! ## Numbers -/

/-- One or more digits. -/
def splitDigits (s : List Char) : Option (List Char × List Char) :=
  match s.takeWhile Char.isDigit with
  | [] => none
  | digits => some (digits, s.dropWhile Char.isDigit)

/-- A fraction: the digits behind a point, which may be missing together with it. -/
def splitFraction : List Char → Option (List Char × List Char)
  | '.' :: rest => splitDigits rest
  | s => some ([], s)

/-- An exponent part, absent if there is none. -/
def splitExponent : List Char → Option (Option Int × List Char)
  | e :: rest =>
    if e = 'e' ∨ e = 'E' then
      match rest with
      | '-' :: rest => (splitDigits rest).map fun (d, r) => (some (-(Text.digitsValue d : Int)), r)
      | '+' :: rest => (splitDigits rest).map fun (d, r) => (some (Text.digitsValue d : Int), r)
      | rest => (splitDigits rest).map fun (d, r) => (some (Text.digitsValue d : Int), r)
    else some (none, e :: rest)
  | [] => some (none, [])

/-- The float with these digits, if it is finite. -/
def float? (negative : Bool) (digits : Nat) (exponent : Int) : Option JsonNumber := do
  JsonNumber.ofFloat? (← Binary64.ofDecimal? negative digits exponent)

/-- The number of an integer literal: exact if it fits, else a float; a negative zero is the
float. -/
def integer? (negative : Bool) (n : Nat) : Option JsonNumber :=
  if negative then
    if n = 0 ∨ 0x8000000000000000 < n then float? true n 0 else some (.ofInt64 (Int64.ofInt (-n)))
  else if n < UInt64.size then some (.unsigned (UInt64.ofNat n))
  else float? false n 0

/-- A number whose sign has been read. -/
def splitMagnitude (negative : Bool) (s : List Char) :
    Option (Option JsonNumber × List Char) := do
  let (whole, rest) ← splitDigits s
  guard (whole.head? ≠ some '0' ∨ whole.length = 1)
  let (fraction, rest') ← splitFraction rest
  let (exponent, rest'') ← splitExponent rest'
  let n? :=
    match fraction, exponent with
    | [], none => integer? negative (Text.digitsValue whole)
    | _, _ =>
      float? negative (Text.digitsValue (whole ++ fraction)) (exponent.getD 0 - fraction.length)
  return (n?, rest'')

/-! ## Tokens -/

inductive Token
  | openArray
  | closeArray
  | openObject
  | closeObject
  | comma
  | colon
  | scalar (value : Option Json)
  | string (value : Option String)
  deriving Repr

def isBlank (c : Char) : Bool :=
  c == ' ' || c == '\t' || c == '\n' || c == '\r'

/-- The token of a number. -/
def numberToken (n : Option JsonNumber) : Token :=
  .scalar (n.map .number)

/-- The first token of a text that starts with no blank. -/
def nextToken? (s : List Char) : Option (Token × List Char) :=
  match s with
  | '[' :: rest => some (.openArray, rest)
  | ']' :: rest => some (.closeArray, rest)
  | '\x7b' :: rest => some (.openObject, rest)
  | '\x7d' :: rest => some (.closeObject, rest)
  | ',' :: rest => some (.comma, rest)
  | ':' :: rest => some (.colon, rest)
  | 'n' :: 'u' :: 'l' :: 'l' :: rest => some (.scalar (some .null), rest)
  | 't' :: 'r' :: 'u' :: 'e' :: rest => some (.scalar (some (.bool true)), rest)
  | 'f' :: 'a' :: 'l' :: 's' :: 'e' :: rest => some (.scalar (some (.bool false)), rest)
  | '"' :: rest =>
    (splitString rest).map fun (items, r) => (.string ((joinUnits items).map String.ofList), r)
  | '-' :: rest => (splitMagnitude true rest).map fun (n, r) => (numberToken n, r)
  | s => (splitMagnitude false s).map fun (n, r) => (numberToken n, r)

/-- The tokens of a text. A token takes at least one character, so that `fuel` need not exceed
the length of the text. -/
def tokensWithin : Nat → List Char → Option (List Token)
  | 0, s => if s.all isBlank then some [] else none
  | fuel + 1, s =>
    match s.dropWhile isBlank with
    | [] => some []
    | s => do
      let (t, rest) ← nextToken? s
      let ts ← tokensWithin fuel rest
      return t :: ts

def tokens? (s : List Char) : Option (List Token) :=
  tokensWithin s.length s

end Json

end SqlAccess

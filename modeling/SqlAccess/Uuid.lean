import SqlAccess.Text.Hex

/-!
# UUIDs

Sixteen octets, written as five groups of lower-case hexadecimal digits. Reading also takes the
digits without hyphens, and the hyphenated form in braces or behind `urn:uuid:`.
-/

namespace SqlAccess

structure Uuid where
  octets : List UInt8
  length_octets : octets.length = 16
  deriving DecidableEq, Repr

namespace Uuid

def nil : Uuid := ⟨List.replicate 16 0, List.length_replicate⟩

def ofOctets? (octets : List UInt8) : Option Uuid :=
  if h : octets.length = 16 then some ⟨octets, h⟩ else none

def text (u : Uuid) : String :=
  let digits := Text.hexChars u.octets
  String.ofList <|
    digits.take 8 ++ '-' :: (digits.drop 8).take 4 ++ '-' :: (digits.drop 12).take 4 ++
      '-' :: (digits.drop 16).take 4 ++ '-' :: digits.drop 20

/-- Thirty-two digits. -/
def ofDigits? (digits : List Char) : Option Uuid := do
  ofOctets? (← Text.bytesOfHex? digits)

/-- Thirty-two digits with hyphens behind the eighth, twelfth, sixteenth and twentieth. -/
def ofHyphenated? (cs : List Char) : Option Uuid :=
  if cs.length = 36 ∧ [8, 13, 18, 23].all (fun i => cs[i]? == some '-') then
    ofDigits? <|
      cs.take 8 ++ (cs.drop 9).take 4 ++ (cs.drop 14).take 4 ++ (cs.drop 19).take 4 ++ cs.drop 24
  else none

def parse? (s : String) : Option Uuid :=
  let cs := s.toList
  if cs.length = 32 then ofDigits? cs
  else if cs.length = 36 then ofHyphenated? cs
  else if cs.length = 38 ∧ cs.head? = some '\x7b' ∧ cs.getLast? = some '\x7d' then
    ofHyphenated? (cs.drop 1).dropLast
  else if cs.take 9 = "urn:uuid:".toList then ofHyphenated? (cs.drop 9)
  else none

end Uuid

end SqlAccess

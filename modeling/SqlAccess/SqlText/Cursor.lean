import SqlAccess.SqlText.Placeholder
import SqlAccess.Text.Slice

/-!
# Scanning by byte positions

The placeholders of a text as a cursor finds them that walks over the bytes of the text and
remembers one character. All that it looks at are parts of the text between byte positions. A walk
that would cut inside a character, close a comment that is not open or stand still gives nothing.
-/

namespace SqlAccess

open Text (before? from? between?)

/-! ## Ends of regions -/

/-- The number of bytes in front of the first place where `stops` holds of what comes. -/
def bytesBefore? (stops : List Char → Bool) : List Char → Option Nat
  | [] => none
  | c :: rest =>
    if stops (c :: rest) then some 0 else (bytesBefore? stops rest).map (c.utf8Size + ·)

/-- The byte that comes `past` bytes behind the first place from byte `start` on where `stops`
holds; the end of the text if there is no such place. -/
def stopBehind? (sql : String) (start past : Nat) (stops : List Char → Bool) : Option Nat := do
  let text ← from? sql start
  match bytesBefore? stops text.toList with
  | some n => return start + n + past
  | none => return sql.utf8ByteSize

/-- The byte behind the quote that ends a literal inside of which byte `byte` is. -/
def literalEnd (escapes : Bool) (byte : Nat) : List Char → Nat
  | [] => byte
  | c :: rest =>
    if escapes && c == '\\' then
      match rest with
      | [] => byte + c.utf8Size
      | d :: rest => literalEnd escapes (byte + c.utf8Size + d.utf8Size) rest
    else if c = '\'' then byte + c.utf8Size
    else literalEnd escapes (byte + c.utf8Size) rest

/-- The byte behind the end of the `depth` block comments that are open at byte `byte`; an opening
one may come next. A comment is closed only if one is open. -/
def commentEnd? (sql : String) (depth byte : Nat) : Option Nat :=
  if byte < sql.utf8ByteSize then do
    let text ← from? sql byte
    if ['/', '*'].isPrefixOf text.toList then commentEnd? sql (depth + 1) (byte + 2)
    else if ['*', '/'].isPrefixOf text.toList then
      match depth with
      | 0 => none
      | 1 => some (byte + 2)
      | depth + 2 => commentEnd? sql (depth + 1) (byte + 2)
    else
      match text.toList with
      | [] => commentEnd? sql depth (byte + 1)
      | c :: _ => commentEnd? sql depth (byte + c.utf8Size)
  else some byte
termination_by sql.utf8ByteSize - byte
decreasing_by
  · omega
  · omega
  · omega
  · have := c.utf8Size_pos
    omega

/-- The byte behind the dollar sign that ends a tag's name inside of which byte `byte` is. -/
def nameEnd? (byte : Nat) : List Char → Option Nat
  | [] => none
  | c :: rest =>
    if c = '$' then some (byte + 1)
    else if isWordChar c then nameEnd? (byte + c.utf8Size) rest
    else none

/-- The byte behind the tag that starts with the dollar sign at byte `start`, if one does. -/
def tagEnd? (sql : String) (start : Nat) : Option (Option Nat) := do
  let text ← from? sql (start + 1)
  match text.toList with
  | [] => return none
  | c :: rest =>
    if c = '$' then return some (start + 2)
    else if Text.isAlphabetic c || c == '_' then return nameEnd? (start + 1 + c.utf8Size) rest
    else return none

/-! ## The walk -/

/-- The byte that comes next and the character that counts as the one in front of it. -/
structure Cursor where
  byte : Nat
  prev : Option Char
  deriving DecidableEq, Repr

namespace Cursor

/-- Whether the previous character belongs to a word. -/
def inWord (k : Cursor) : Bool :=
  k.prev.any isWordChar

/-- Whether backslashes escape in a literal that opens here: behind an `E` that is a word. -/
def opensEscapes? (sql : String) (k : Cursor) : Option Bool :=
  if k.prev = some 'E' ∨ k.prev = some 'e' then
    match k.byte with
    | 0 => none
    | byte + 1 => (before? sql byte).map fun front => !front.toList.getLast?.any isWordChar
  else some false

def behindLiteral? (sql : String) (k : Cursor) : Option Cursor := do
  let escapes ← k.opensEscapes? sql
  let text ← from? sql (k.byte + 1)
  return ⟨literalEnd escapes (k.byte + 1) text.toList, some '\''⟩

def behindQuotedName? (sql : String) (k : Cursor) : Option Cursor :=
  (stopBehind? sql (k.byte + 1) 1 (·.head? == some '"')).map (⟨·, some '"'⟩)

def behindLineComment? (sql : String) (k : Cursor) : Option Cursor :=
  (stopBehind? sql k.byte 1 (·.head? == some '\n')).map (⟨·, some '\n'⟩)

def behindBlockComment? (sql : String) (k : Cursor) : Option Cursor :=
  (commentEnd? sql 0 k.byte).map (⟨·, some ' '⟩)

/-- The byte behind the tag of a dollar quote that opens here with `c`, if one does. -/
def openTag? (sql : String) (k : Cursor) (c : Char) : Option (Option Nat) :=
  if c = '$' ∧ k.inWord = false then tagEnd? sql k.byte else some none

/-- The cursor behind a dollar-quoted body whose tag ends at byte `tagEnd`. -/
def behindDollarBody? (sql : String) (k : Cursor) (tagEnd : Nat) : Option Cursor := do
  let tag ← between? sql k.byte tagEnd
  let stop ← stopBehind? sql tagEnd tag.utf8ByteSize tag.toList.isPrefixOf
  return ⟨stop, some '$'⟩

/-- The placeholder that starts here, and the cursor behind it. -/
def readPlaceholder? (sql : String) (marker : Char) (k : Cursor) :
    Option (Cursor × List Placeholder) := do
  let start := k.byte + marker.utf8Size
  let stop ← stopBehind? sql start 0 fun s => s.head?.any (!isWordChar ·)
  let name ← between? sql start stop
  let front ← before? sql stop
  return (⟨stop, front.toList.getLast?⟩, [⟨k.byte, stop, name⟩])

/-- The cursor behind the next region, placeholder or single character, and the placeholder. -/
def step? (sql : String) (marker : Char) (k : Cursor) : Option (Cursor × List Placeholder) := do
  let text ← from? sql k.byte
  match text.toList with
  | [] => return (⟨sql.utf8ByteSize, k.prev⟩, [])
  | c :: _ =>
    let behind ← from? sql (k.byte + c.utf8Size)
    let next := behind.toList.head?
    if c = '\'' then (k.behindLiteral? sql).map (·, [])
    else if c = '"' then (k.behindQuotedName? sql).map (·, [])
    else if c = '-' ∧ next = some '-' then (k.behindLineComment? sql).map (·, [])
    else if c = '/' ∧ next = some '*' then (k.behindBlockComment? sql).map (·, [])
    else
      match ← k.openTag? sql c with
      | some tagEnd => (k.behindDollarBody? sql tagEnd).map (·, [])
      | none =>
        if c == marker && !k.inWord && k.prev != some marker && next.any isWordChar then
          k.readPlaceholder? sql marker
        else return (⟨k.byte + c.utf8Size, some c⟩, [])

/-- The placeholders from the cursor on. -/
def walk? (sql : String) (marker : Char) (k : Cursor) : Option (List Placeholder) :=
  if k.byte < sql.utf8ByteSize then
    match k.step? sql marker with
    | none => none
    | some (next, found) =>
      if k.byte < next.byte then (walk? sql marker next).map (found ++ ·) else none
  else some []
termination_by sql.utf8ByteSize - k.byte

end Cursor

end SqlAccess

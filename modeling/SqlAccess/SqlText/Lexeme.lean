import SqlAccess.Text.Alphabetic

/-!
# Lexemes of SQL text

SQL text is cut into lexemes: regions whose inside is never looked at (string literals, quoted
names, comments, dollar-quoted bodies), named placeholders, and single characters of plain text.
A placeholder is a marker character directly followed by word characters, neither behind a word
character nor behind another marker.

Main statements: the texts of the lexemes concatenate to the input (`lexemesFrom_text`), and no
lexeme is empty (`Lexeme.text_ne_nil`).
-/

namespace SqlAccess

/-- A character of a name: a letter, a number or an underscore. -/
def isWordChar (c : Char) : Bool :=
  Text.isAlphanumeric c || c == '_'

/-- The kinds of text whose inside is skipped. -/
inductive Region
  | literal
  | quotedName
  | lineComment
  | blockComment
  | dollarBody
  deriving DecidableEq, Repr

/-- The character that stands for a region when the text behind it looks back. -/
def Region.trace : Region → Char
  | .literal => '\''
  | .quotedName => '"'
  | .lineComment => '\n'
  | .blockComment => ' '
  | .dollarBody => '$'

inductive Lexeme
  | plain (c : Char)
  | region (kind : Region) (text : List Char)
  | placeholder (name : List Char)
  deriving DecidableEq, Repr

namespace Lexeme

/-- The characters of a lexeme as they stand in the text. -/
def text (marker : Char) : Lexeme → List Char
  | plain c => [c]
  | region _ text => text
  | placeholder name => marker :: name

/-- The characters that the text behind a lexeme sees when it looks back. -/
def trace (marker : Char) : Lexeme → List Char
  | plain c => [c]
  | region kind _ => [kind.trace]
  | placeholder name => marker :: name

end Lexeme

/-! ## Looking back -/

/-- The last two characters before a position, as far as there are any. -/
structure Context where
  before : Option Char
  prev : Option Char
  deriving DecidableEq, Repr

namespace Context

/-- The context at the start of a text. -/
def start : Context := ⟨none, none⟩

def push (ctx : Context) (c : Char) : Context := ⟨ctx.prev, some c⟩

/-- The context behind a lexeme. -/
def after (marker : Char) (ctx : Context) (l : Lexeme) : Context :=
  (l.trace marker).foldl push ctx

/-- Whether the previous character belongs to a word. -/
def inWord (ctx : Context) : Bool :=
  ctx.prev.any isWordChar

/-- Whether a quote here opens a literal with backslash escapes: behind an `E` that is a word. -/
def opensEscapes (ctx : Context) : Bool :=
  (ctx.prev == some 'E' || ctx.prev == some 'e') && !ctx.before.any isWordChar

end Context

/-! ## Ends of regions

Each of these splits the text behind the opening of a region; the first part reaches through the
region's end, or is all of the text where the region is never closed.
-/

/-- A split with more text in front. -/
def prepend (text : List Char) (s : List Char × List Char) : List Char × List Char :=
  (text ++ s.1, s.2)

/-- Splits behind the quote that ends a literal. With `escapes`, a backslash takes the character
behind it along. -/
def splitLiteral (escapes : Bool) : List Char → List Char × List Char
  | [] => ([], [])
  | c :: rest =>
    if c = '\'' then ([c], rest)
    else if escapes && c == '\\' then
      match rest with
      | [] => ([c], [])
      | d :: rest => prepend [c, d] (splitLiteral escapes rest)
    else prepend [c] (splitLiteral escapes rest)

/-- Splits behind the first `stop`. -/
def splitThrough (stop : Char) : List Char → List Char × List Char
  | [] => ([], [])
  | c :: rest => if c = stop then ([c], rest) else prepend [c] (splitThrough stop rest)

/-- Splits behind the end of a block comment inside which `depth` further comments are open. -/
def splitComment : Nat → List Char → List Char × List Char
  | _, [] => ([], [])
  | depth, '/' :: '*' :: rest => prepend ['/', '*'] (splitComment (depth + 1) rest)
  | 0, '*' :: '/' :: rest => (['*', '/'], rest)
  | depth + 1, '*' :: '/' :: rest => prepend ['*', '/'] (splitComment depth rest)
  | depth, c :: rest => prepend [c] (splitComment depth rest)

/-- Splits behind the first occurrence of `tag`. -/
def splitBehind (tag : List Char) : List Char → List Char × List Char
  | [] => ([], [])
  | c :: rest =>
    if tag.isPrefixOf (c :: rest) then (tag, (c :: rest).drop tag.length)
    else prepend [c] (splitBehind tag rest)

/-- The name of a dollar quote's tag whose first dollar sign has been read, and the text behind
its second one. The name is empty or starts with a letter or an underscore. -/
def dollarTag? (text : List Char) : Option (List Char × List Char) :=
  match text with
  | [] => none
  | c :: rest =>
    if c = '$' then some ([], rest)
    else if Text.isAlphabetic c || c == '_' then
      match rest.dropWhile isWordChar with
      | '$' :: body => some (c :: rest.takeWhile isWordChar, body)
      | _ => none
    else none

/-! ## The next lexeme -/

/-- Whether `c` is a marker that a name follows. -/
def opensPlaceholder (marker : Char) (ctx : Context) (c : Char) (rest : List Char) : Bool :=
  c == marker && !ctx.inWord && ctx.prev != some marker && rest.head?.any isWordChar

/-- The first lexeme of `c :: rest` and the text behind it. -/
def nextLexeme (marker : Char) (ctx : Context) (c : Char) (rest : List Char) :
    Lexeme × List Char :=
  if c = '\'' then
    let s := splitLiteral ctx.opensEscapes rest
    (.region .literal (c :: s.1), s.2)
  else if c = '"' then
    let s := splitThrough '"' rest
    (.region .quotedName (c :: s.1), s.2)
  else if c = '-' ∧ rest.head? = some '-' then
    let s := splitThrough '\n' rest
    (.region .lineComment (c :: s.1), s.2)
  else if c = '/' ∧ rest.head? = some '*' then
    let s := splitComment 0 rest.tail
    (.region .blockComment (c :: '*' :: s.1), s.2)
  else
    match if c = '$' ∧ ctx.inWord = false then dollarTag? rest else none with
    | some (name, body) =>
      let tag := '$' :: name ++ ['$']
      let s := splitBehind tag body
      (.region .dollarBody (tag ++ s.1), s.2)
    | none =>
      if opensPlaceholder marker ctx c rest then
        (.placeholder (rest.takeWhile isWordChar), rest.dropWhile isWordChar)
      else (.plain c, rest)

/-! ## Nothing is lost -/

theorem splitLiteral_append (escapes : Bool) (s : List Char) :
    (splitLiteral escapes s).1 ++ (splitLiteral escapes s).2 = s := by
  fun_induction splitLiteral escapes s <;> simp_all [prepend]

theorem splitThrough_append (stop : Char) (s : List Char) :
    (splitThrough stop s).1 ++ (splitThrough stop s).2 = s := by
  fun_induction splitThrough stop s <;> simp_all [prepend]

theorem splitComment_append (depth : Nat) (s : List Char) :
    (splitComment depth s).1 ++ (splitComment depth s).2 = s := by
  fun_induction splitComment depth s <;> simp_all [prepend]

theorem splitBehind_append (tag s : List Char) :
    (splitBehind tag s).1 ++ (splitBehind tag s).2 = s := by
  fun_induction splitBehind tag s with
  | case1 => rfl
  | case2 c rest h =>
    obtain ⟨t, ht⟩ := List.isPrefixOf_iff_prefix.1 h
    simp [← ht]
  | case3 c rest h ih => simp [prepend, ih]

theorem dollarTag?_append {s name body : List Char} (h : dollarTag? s = some (name, body)) :
    name ++ '$' :: body = s := by
  unfold dollarTag? at h
  split at h
  · simp at h
  · next c rest =>
    split at h
    · next hc => simp_all
    · split at h
      · split at h
        · next b hb =>
          obtain ⟨rfl, rfl⟩ := by simpa using h
          have := List.takeWhile_append_dropWhile (p := isWordChar) (l := rest)
          rw [hb] at this
          simp [this]
        · simp at h
      · simp at h

theorem nextLexeme_append (marker : Char) (ctx : Context) (c : Char) (rest : List Char) :
    (nextLexeme marker ctx c rest).1.text marker ++ (nextLexeme marker ctx c rest).2 =
      c :: rest := by
  unfold nextLexeme
  split
  · simp [Lexeme.text, splitLiteral_append]
  split
  · simp [Lexeme.text, splitThrough_append]
  split
  · simp [Lexeme.text, splitThrough_append]
  split
  · next h =>
    obtain ⟨rfl, h⟩ := h
    cases rest with
    | nil => simp at h
    | cons d rest => simp_all [Lexeme.text, splitComment_append]
  split
  · next name body h =>
    split at h
    · next hc => simp [Lexeme.text, splitBehind_append, dollarTag?_append h, hc.1]
    · simp at h
  · split
    · next h =>
      have : c = marker := by simp_all [opensPlaceholder]
      simp [Lexeme.text, this]
    · rfl

theorem nextLexeme_text_ne_nil (marker : Char) (ctx : Context) (c : Char) (rest : List Char) :
    (nextLexeme marker ctx c rest).1.text marker ≠ [] := by
  unfold nextLexeme
  repeat' split
  all_goals simp [Lexeme.text]

theorem nextLexeme_shorter (marker : Char) (ctx : Context) (c : Char) (rest : List Char) :
    (nextLexeme marker ctx c rest).2.length < (c :: rest).length := by
  have h := congrArg List.length (nextLexeme_append marker ctx c rest)
  have := List.length_pos_iff.2 (nextLexeme_text_ne_nil marker ctx c rest)
  simp only [List.length_append] at h
  omega

/-! ## All lexemes -/

/-- The lexemes of a text that stands behind `ctx`. -/
def lexemesFrom (marker : Char) (ctx : Context) : List Char → List Lexeme
  | [] => []
  | c :: rest =>
    (nextLexeme marker ctx c rest).1 ::
      lexemesFrom marker (ctx.after marker (nextLexeme marker ctx c rest).1)
        (nextLexeme marker ctx c rest).2
termination_by s => s.length
decreasing_by exact nextLexeme_shorter marker ctx c rest

/-- The lexemes of a whole text. -/
def lexemes (marker : Char) (sql : List Char) : List Lexeme :=
  lexemesFrom marker .start sql

theorem lexemesFrom_text (marker : Char) (ctx : Context) (s : List Char) :
    (lexemesFrom marker ctx s).flatMap (·.text marker) = s := by
  fun_induction lexemesFrom marker ctx s with
  | case1 => rfl
  | case2 ctx c rest ih => rw [List.flatMap_cons, ih, nextLexeme_append]

theorem Lexeme.text_ne_nil {marker : Char} {ctx : Context} {s : List Char} {l : Lexeme}
    (h : l ∈ lexemesFrom marker ctx s) : l.text marker ≠ [] := by
  fun_induction lexemesFrom marker ctx s with
  | case1 => simp at h
  | case2 ctx c rest ih =>
    rcases List.mem_cons.1 h with rfl | h
    · exact nextLexeme_text_ne_nil marker ctx c rest
    · exact ih h

end SqlAccess

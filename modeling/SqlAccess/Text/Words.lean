import SqlAccess.Text.Alphabetic
import SqlAccess.Text.CaseMap

/-!
# Words of a name

A name is cut into words at characters that are neither letters nor numbers, between a lower-case
and an upper-case letter, and before the last capital of a run of capitals that lower case follows.
Digits cut nothing. `joined` puts the words together again in another style.
-/

namespace SqlAccess.Text

/-- The case of the last letter of the word so far. -/
inductive WordCase
  | unknown
  | lower
  | upper
  deriving DecidableEq, Repr

/-- The words of a run of letters and numbers; `word` holds the word so far, last character
first. -/
def wordsFrom (word : List Char) (last : WordCase) : List Char → List (List Char)
  | [] => [word.reverse]
  | [c] => [(c :: word).reverse]
  | c :: next :: rest =>
    let now := if isLowercase c then .lower else if isUppercase c then .upper else last
    if now = .lower ∧ isUppercase next then
      (c :: word).reverse :: wordsFrom [] .unknown (next :: rest)
    else if last = .upper ∧ isUppercase c ∧ isLowercase next then
      word.reverse :: wordsFrom [c] .unknown (next :: rest)
    else wordsFrom (c :: word) now (next :: rest)

/-- The runs of letters and numbers of a text, which are not empty. -/
def runsOf (run : List Char) : List Char → List (List Char)
  | [] => if run.isEmpty then [] else [run.reverse]
  | c :: rest =>
    if isAlphanumeric c then runsOf (c :: run) rest
    else if run.isEmpty then runsOf [] rest
    else run.reverse :: runsOf [] rest

def words (s : List Char) : List (List Char) :=
  (runsOf [] s).flatMap (wordsFrom [] .unknown)

/-- A word in lower case, a capital sigma at its end as a final one. -/
def lowerWord : List Char → List Char
  | [] => []
  | ['Σ'] => ['ς']
  | c :: rest => lowerOf c ++ lowerWord rest

def upperWord (w : List Char) : List Char :=
  w.flatMap upperOf

/-- A word with its first character in upper case and the others in lower case. -/
def capitalWord : List Char → List Char
  | [] => []
  | c :: rest => upperOf c ++ lowerWord rest

end SqlAccess.Text

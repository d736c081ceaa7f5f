import SqlAccess.SqlText.Placeholder

/-!
# Rewriting placeholders

Three ways to put other text in the place of placeholders: `substituteM` asks a renderer for each
of them, `replaceFirst` replaces one occurrence of one name, `toPositional` numbers the names it
knows as `$1`, `$2`, … in the order of their first appearance. Text outside the replaced
placeholders is kept.
-/

namespace SqlAccess

/-! ## Asking a renderer -/

/-- The text in the place of a lexeme: `render` is asked for placeholders only, and where it has
no answer the placeholder stays. -/
def Lexeme.renderM {m : Type → Type} [Monad m] (marker : Char)
    (render : String → m (Option String)) : Lexeme → m (List Char)
  | .placeholder name => do
    match ← render (String.ofList name) with
    | some text => return text.toList
    | none => return marker :: name
  | l => return l.text marker

/-- `sql` with its placeholders replaced by the answers of `render`, which is asked in text
order. -/
def substituteM {m : Type → Type} [Monad m] (sql : String) (marker : Char)
    (render : String → m (Option String)) : m String := do
  let parts ← (lexemes marker sql.toList).mapM (·.renderM marker render)
  return String.ofList parts.flatten

/-- The text in the place of a lexeme under a renderer without effects. -/
def Lexeme.rendered (marker : Char) (render : String → Option String) : Lexeme → List Char
  | .placeholder name => ((render (String.ofList name)).map (·.toList)).getD (marker :: name)
  | l => l.text marker

/-- `substituteM` for a renderer without effects. -/
def substitute (sql : String) (marker : Char) (render : String → Option String) : String :=
  String.ofList <| (lexemes marker sql.toList).flatMap (·.rendered marker render)

theorem Lexeme.renderM_pure (marker : Char) (render : String → Option String) (l : Lexeme) :
    l.renderM (m := Id) marker (fun name => pure (render name)) =
      pure (l.rendered marker render) := by
  cases l with
  | placeholder name =>
    simp only [Lexeme.renderM, Lexeme.rendered]
    cases render (String.ofList name) <;> rfl
  | _ => rfl

theorem substituteM_pure (sql : String) (marker : Char) (render : String → Option String) :
    substituteM (m := Id) sql marker (fun name => pure (render name)) =
      pure (substitute sql marker render) := by
  have h (ls : List Lexeme) :
      ls.mapM (fun l => l.renderM (m := Id) marker fun name => pure (render name)) =
        pure (ls.map (·.rendered marker render)) := by
    simp only [Lexeme.renderM_pure]
    exact List.mapM_pure
  rw [substituteM, h, substitute, List.flatMap_def]
  rfl

/-! ## One occurrence of one name -/

/-- The text of `lexemes` with the first placeholder called `name` replaced. -/
def replaceFirstIn (marker : Char) (name replacement : List Char) :
    List Lexeme → Option (List Char)
  | [] => none
  | l :: rest =>
    if l = .placeholder name then some (replacement ++ rest.flatMap (·.text marker))
    else (replaceFirstIn marker name replacement rest).map (l.text marker ++ ·)

/-- Replaces the first placeholder written `fullName`, marker included; nothing if there is none
or if `fullName` lacks the marker. -/
def replaceFirst (sql : String) (marker : Char) (fullName replacement : String) :
    Option String :=
  match fullName.toList with
  | [] => none
  | c :: name =>
    if c = marker then
      (replaceFirstIn marker name replacement.toList (lexemes marker sql.toList)).map
        String.ofList
    else none

/-! ## Numbered references -/

/-- The last position at which `a` stands. -/
def lastIdxOf? {α : Type} [DecidableEq α] (a : α) : List α → Option Nat
  | [] => none
  | x :: xs =>
    match lastIdxOf? a xs with
    | some i => some (i + 1)
    | none => if x = a then some 0 else none

/-- The one-based number of `i` in `order`, where a new index goes to the end. -/
def assignNumber (order : List Nat) (i : Nat) : Nat × List Nat :=
  match order.idxOf? i with
  | some k => (k + 1, order)
  | none => (order.length + 1, order ++ [i])

/-- The text of `lexemes` with every placeholder that `find?` knows written as a number, and the
order of indices after it. -/
def numberFrom (marker : Char) (find? : String → Option Nat) (order : List Nat) :
    List Lexeme → List Char × List Nat
  | [] => ([], order)
  | l :: rest =>
    match l with
    | .placeholder name =>
      match find? (String.ofList name) with
      | some i =>
        let (k, order) := assignNumber order i
        let tail := numberFrom marker find? order rest
        ('$' :: (Nat.repr k).toList ++ tail.1, tail.2)
      | none =>
        let tail := numberFrom marker find? order rest
        (l.text marker ++ tail.1, tail.2)
    | l =>
      let tail := numberFrom marker find? order rest
      (l.text marker ++ tail.1, tail.2)

/-- A text with numbered references; reference `$k` means index `order[k - 1]`. -/
structure Positional where
  sql : String
  order : List Nat
  deriving DecidableEq, Repr

/-- Numbers the placeholders that one of `names`, marker dropped, calls; of several equal names
the last one counts. -/
def toPositional (sql : String) (marker : Char) (names : List String) : Positional :=
  let logical := names.map (logicalName marker)
  let r := numberFrom marker (lastIdxOf? · logical) [] (lexemes marker sql.toList)
  ⟨String.ofList r.1, r.2⟩

end SqlAccess

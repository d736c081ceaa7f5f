import SqlAccess.Proofs.SqlText.Expansion
import SqlAccess.Proofs.SqlText.Numbering
import SqlAccess.Proofs.SqlText.Span
import SqlAccess.Wire.Bytes

/-!
# Splicing at byte ranges

Every rewriting of placeholders is one operation on bytes, `splice`: the ranges that `scan` reports
are cut out and answers put in their place, and what has no answer is copied with the bytes around
it. Lexemes and byte ranges meet in `spliceFrom_placeholders`, by induction on the lexemes with the
copied bytes as invariant; `utf8_substituteM` lifts it to renderers with effects, of which
`answerOnce` gives the replacement of one placeholder (`replaceFirstIn_eq_run`).

Main statement: `rewriters_splice`.
-/

namespace SqlAccess

variable {marker : Char}

/-! ## Bytes of texts -/

/-- The bytes of characters. -/
def encoded (s : List Char) : List UInt8 :=
  utf8 (String.ofList s)

theorem utf8_eq_encoded (s : String) : utf8 s = encoded s.toList := by
  rw [encoded, String.ofList_toList]

@[simp] theorem encoded_nil : encoded [] = [] := rfl

@[simp] theorem encoded_append (s t : List Char) : encoded (s ++ t) = encoded s ++ encoded t := by
  simp [encoded, utf8]

@[simp] theorem length_encoded (s : List Char) : (encoded s).length = byteLength s := by
  rw [byteLength_eq_utf8ByteSize, ← String.size_toByteArray]
  rfl

/-! ## Cutting and copying -/

/-- The bytes from `cursor` on, with the ranges of the placeholders that have an answer cut out and
the answers in their place. -/
def spliceFrom (bytes : List UInt8) (cursor : Nat) :
    List (Placeholder × Option String) → List UInt8
  | [] => bytes.drop cursor
  | (_, none) :: rest => spliceFrom bytes cursor rest
  | (p, some answer) :: rest =>
    (bytes.drop cursor).take (p.start - cursor) ++ utf8 answer ++ spliceFrom bytes p.stop rest

/-- The bytes of a text with answers in the place of placeholders. -/
def splice (sql : String) (answers : List (Placeholder × Option String)) : List UInt8 :=
  spliceFrom (utf8 sql) 0 answers

/-- The text of lexemes with one answer after the other in the place of placeholders. -/
def answeredText (marker : Char) : List Lexeme → List (Option String) → List Char
  | [], _ => []
  | .placeholder name :: ls, answer :: answers =>
    ((answer.map (·.toList)).getD (marker :: name)) ++ answeredText marker ls answers
  | l :: ls, answers => l.text marker ++ answeredText marker ls answers

theorem take_drop_encoded (front pending rest : List Char) :
    ((encoded (front ++ pending ++ rest)).drop (byteLength front)).take
      (byteLength (front ++ pending) - byteLength front) = encoded pending := by
  rw [List.append_assoc, encoded_append, ← length_encoded front, List.drop_left, encoded_append,
    ← length_encoded (front ++ pending), encoded_append, List.length_append,
    Nat.add_sub_cancel_left, List.take_left]

/-- Cutting at byte ranges is writing answers in the place of lexemes: `front` has been copied up to
the cursor, and `pending` stands between the cursor and the lexemes. -/
theorem spliceFrom_placeholders (marker : Char) (front pending : List Char) (ls : List Lexeme)
    (answers : List (Option String)) :
    spliceFrom (encoded (front ++ pending ++ textOf marker ls)) (byteLength front)
        ((placeholdersFrom marker (byteLength (front ++ pending)) ls).zip answers) =
      encoded (pending ++ answeredText marker ls answers) := by
  induction ls generalizing front pending answers with
  | nil =>
    rw [textOf_nil, placeholdersFrom, List.zip_nil_left, spliceFrom, answeredText,
      List.append_nil, List.append_nil, encoded_append, ← length_encoded, List.drop_left]
  | cons l ls ih =>
    -- text that stays is pending until the next cut
    have hkeep (answers : List (Option String)) :
        spliceFrom (encoded (front ++ pending ++ textOf marker (l :: ls))) (byteLength front)
            ((placeholdersFrom marker
              (byteLength (front ++ pending) + byteLength (l.text marker)) ls).zip answers) =
          encoded (pending ++ (l.text marker ++ answeredText marker ls answers)) := by
      simpa [byteLength_append, Nat.add_assoc] using ih front (pending ++ l.text marker) answers
    cases l with
    | plain c => exact hkeep answers
    | region kind text => exact hkeep answers
    | placeholder name =>
      cases answers with
      | nil => simpa [placeholdersFrom, answeredText, spliceFrom] using hkeep []
      | cons answer answers =>
        cases answer with
        | none => exact hkeep answers
        | some answer =>
          have hrest := ih (front ++ pending ++ marker :: name) [] answers
          rw [List.append_nil, List.append_assoc _ (marker :: name), byteLength_append] at hrest
          have htext : answeredText marker (.placeholder name :: ls) (some answer :: answers) =
            answer.toList ++ answeredText marker ls answers := rfl
          rw [placeholdersFrom, List.zip_cons_cons, spliceFrom, take_drop_encoded, htext,
            encoded_append pending, encoded_append answer.toList, utf8_eq_encoded,
            List.append_assoc (encoded pending)]
          exact congrArg (fun rest => encoded pending ++ (encoded answer.toList ++ rest)) hrest

theorem splice_scan (sql : String) (answers : List (Option String)) :
    splice sql ((scan sql marker).zip answers) =
      encoded (answeredText marker (lexemes marker sql.toList) answers) := by
  have h := spliceFrom_placeholders marker [] [] (lexemes marker sql.toList) answers
  rw [List.nil_append, List.nil_append, List.nil_append, textOf, lexemes, lexemesFrom_text] at h
  rw [splice, scan, utf8_eq_encoded]
  exact h

/-! ## Asking a renderer -/

section
variable {m : Type → Type} [Monad m] [LawfulMonad m] (render : String → m (Option String))

theorem flatten_mapM_cons {α : Type} (f : α → m (List Char)) (a : α) (l : List α) :
    List.flatten <$> (a :: l).mapM f =
      f a >>= fun text => (text ++ ·) <$> List.flatten <$> l.mapM f := by
  rw [List.mapM_cons, map_bind]
  refine bind_congr fun text => ?_
  simp

/-- Rendering lexemes asks once for each placeholder, in text order. -/
theorem mapM_renderM (marker : Char) (start : Nat) (ls : List Lexeme) :
    List.flatten <$> ls.mapM (·.renderM marker render) =
      answeredText marker ls <$>
        (placeholdersFrom marker start ls).mapM fun p => render p.name := by
  induction ls generalizing start with
  | nil => simp [placeholdersFrom, answeredText]
  | cons l ls ih =>
    rw [flatten_mapM_cons]
    -- what is no placeholder has its text without a question
    have hkeep (hl : l.renderM marker render = pure (l.text marker))
        (htext : answeredText marker (l :: ls) =
          fun answers => l.text marker ++ answeredText marker ls answers) (stop : Nat) :
        (l.renderM marker render >>= fun text =>
            (text ++ ·) <$> List.flatten <$> ls.mapM (·.renderM marker render)) =
          answeredText marker (l :: ls) <$>
            (placeholdersFrom marker stop ls).mapM fun p => render p.name := by
      rw [hl, pure_bind, ih stop, Functor.map_map, htext]
    cases l with
    | plain c => exact hkeep rfl rfl _
    | region kind text => exact hkeep rfl rfl _
    | placeholder name =>
      rw [Lexeme.renderM, bind_assoc, placeholdersFrom, List.mapM_cons, map_bind]
      refine bind_congr fun answer => ?_
      rw [map_bind, ih (start + byteLength (Lexeme.text marker (.placeholder name)))]
      cases answer <;> simp [answeredText]

theorem utf8_substituteM (sql : String) (marker : Char) :
    utf8 <$> substituteM sql marker render =
      (fun answers => splice sql ((scan sql marker).zip answers)) <$>
        (scan sql marker).mapM fun p => render p.name := by
  calc utf8 <$> substituteM sql marker render
      = encoded <$> List.flatten <$>
          (lexemes marker sql.toList).mapM (·.renderM marker render) := by
        simp [substituteM, encoded]
    _ = _ := by
        rw [mapM_renderM render marker 0, Functor.map_map, ← scan]
        simp only [splice_scan]

end

/-! ## Renderers without effects -/

/-- A renderer without effects answers all placeholders of a name alike. -/
theorem utf8_substitute (sql : String) (marker : Char) (render : String → Option String) :
    utf8 (substitute sql marker render) =
      splice sql ((scan sql marker).map fun p => (p, render p.name)) := by
  have h := utf8_substituteM (m := Id) (fun name => pure (render name)) sql marker
  rw [substituteM_pure, map_pure, List.mapM_pure, map_pure] at h
  have hzip : (scan sql marker).zip ((scan sql marker).map fun p => render p.name) =
      (scan sql marker).map fun p => (p, render p.name) := by
    simpa using List.zip_map' (f := id) (g := fun p : Placeholder => render p.name)
  rw [← hzip]
  exact h

/-- A renderer that answers with what stands there, if at all, changes nothing. -/
theorem substitute_eq_self {sql : String} {render : String → Option String}
    (h : ∀ name text, render name = some text → text = fullName marker name) :
    substitute sql marker render = sql := by
  have hl (l : Lexeme) : l.rendered marker render = l.text marker := by
    cases l with
    | placeholder name =>
      rw [Lexeme.rendered]
      cases hr : render (String.ofList name) with
      | none => rfl
      | some text => simp [h _ _ hr, fullName, Lexeme.text]
    | plain c => rfl
    | region kind text => rfl
  simp only [substitute, hl]
  rw [lexemes, lexemesFrom_text, String.ofList_toList]

/-! ## A renderer that answers once -/

/-- Answers the first question for `name` and no other; the state says whether it has done so. -/
def answerOnce (name text asked : String) : StateM Bool (Option String) := do
  let answered ← get
  if asked = name ∧ answered = false then
    set true
    return some text
  else return none

theorem run_answerOnce (name text asked : String) (answered : Bool) :
    (answerOnce name text asked).run answered =
      if asked = name ∧ answered = false then (some text, true) else (none, answered) := by
  by_cases h : asked = name ∧ answered = false
  · rw [if_pos h]
    simp only [answerOnce, StateT.run_bind, StateT.run_get, pure_bind, if_pos h]
    rfl
  · rw [if_neg h]
    simp only [answerOnce, StateT.run_bind, StateT.run_get, pure_bind, if_neg h]
    rfl

section
variable {σ : Type} (render : String → StateM σ (Option String))

theorem run_renderM_placeholder (name : List Char) (s : σ) :
    ((Lexeme.placeholder name).renderM marker render).run s =
      (((((render (String.ofList name)).run s).1.map (·.toList)).getD (marker :: name)),
        ((render (String.ofList name)).run s).2) := by
  rw [Lexeme.renderM, StateT.run_bind]
  rcases (render (String.ofList name)).run s with ⟨answer | answer, s⟩
  · rfl
  · rfl

theorem run_mapM_cons (l : Lexeme) (ls : List Lexeme) (s : σ) :
    ((l :: ls).mapM (Lexeme.renderM marker render)).run s =
      let r := (l.renderM marker render).run s
      let rest := (ls.mapM (Lexeme.renderM marker render)).run r.2
      (r.1 :: rest.1, rest.2) := by
  rw [List.mapM_cons]
  rfl

end

/-- Once it has answered, the renderer leaves everything as it is. -/
theorem run_mapM_answered (name text : String) (ls : List Lexeme) :
    (ls.mapM (Lexeme.renderM marker (answerOnce name text))).run true =
      (ls.map (·.text marker), true) := by
  induction ls with
  | nil => rfl
  | cons l ls ih =>
    have hl : (l.renderM marker (answerOnce name text)).run true = (l.text marker, true) := by
      cases l with
      | placeholder asked =>
        rw [run_renderM_placeholder, run_answerOnce, if_neg (by simp)]
        rfl
      | plain c => rfl
      | region kind text => rfl
    simp only [run_mapM_cons, hl, ih, List.map_cons]

/-- Replacing the first placeholder of a name is rendering with a renderer that answers once; it has
answered in the end exactly if there was such a placeholder. -/
theorem replaceFirstIn_eq_run (name text : String) (ls : List Lexeme) :
    replaceFirstIn marker name.toList text.toList ls =
      let r := (ls.mapM (Lexeme.renderM marker (answerOnce name text))).run false
      if r.2 then some r.1.flatten else none := by
  induction ls with
  | nil => rfl
  | cons l ls ih =>
    rw [run_mapM_cons, replaceFirstIn]
    by_cases hl : l = .placeholder name.toList
    · have hrun : (l.renderM marker (answerOnce name text)).run false = (text.toList, true) := by
        rw [hl, run_renderM_placeholder, run_answerOnce, if_pos (by simp)]
        rfl
      rw [if_pos hl, hrun]
      simp only [run_mapM_answered]
      rfl
    · have hrun : (l.renderM marker (answerOnce name text)).run false = (l.text marker, false) := by
        cases l with
        | placeholder asked =>
          have hne : String.ofList asked ≠ name := by
            rintro rfl
            simp at hl
          rw [run_renderM_placeholder, run_answerOnce, if_neg (by simp [hne])]
          rfl
        | plain c => rfl
        | region kind text => rfl
      rw [if_neg hl, hrun, ih]
      simp only
      split
      · rfl
      · rfl

/-! ## The three rewriters -/

theorem mem_names_scan_iff {sql name : String} :
    (∃ p ∈ scan sql marker, p.name = name) ↔
      .placeholder name.toList ∈ lexemes marker sql.toList := by
  rw [← mem_namesOf_iff, ← map_name_scan, List.mem_map]

theorem replaceFirstIn_isSome (marker : Char) {name : List Char} (replacement : List Char)
    {ls : List Lexeme} (h : .placeholder name ∈ ls) :
    (replaceFirstIn marker name replacement ls).isSome := by
  induction ls with
  | nil => cases h
  | cons l ls ih =>
    rw [replaceFirstIn]
    split
    · rfl
    · next hl => simpa using ih ((List.mem_cons.1 h).resolve_left (Ne.symm hl))

theorem replaceFirst_fullName (sql name text : String) :
    replaceFirst sql marker (fullName marker name) text =
      (replaceFirstIn marker name.toList text.toList (lexemes marker sql.toList)).map
        String.ofList := by
  simp [replaceFirst, fullName]

theorem replaceFirst_eq_none_iff {sql name text : String} :
    replaceFirst sql marker (fullName marker name) text = none ↔
      ∀ p ∈ scan sql marker, p.name ≠ name := by
  have hnames : (∀ p ∈ scan sql marker, p.name ≠ name) ↔
      .placeholder name.toList ∉ lexemes marker sql.toList := by
    simp [← mem_names_scan_iff]
  rw [replaceFirst_fullName, Option.map_eq_none_iff, hnames]
  refine ⟨fun h hmem => ?_, replaceFirstIn_of_notMem⟩
  simpa [h] using replaceFirstIn_isSome marker text.toList hmem

theorem replaceFirst_eq_some {sql name text : String} (h : ∃ p ∈ scan sql marker, p.name = name) :
    replaceFirst sql marker (fullName marker name) text =
      some ((substituteM sql marker (answerOnce name text)).run false).1 := by
  have hsome := replaceFirstIn_isSome marker text.toList (mem_names_scan_iff.1 h)
  rw [replaceFirst_fullName]
  rw [replaceFirstIn_eq_run] at hsome ⊢
  simp only at hsome ⊢
  split at hsome
  · next hr => rw [if_pos hr]; rfl
  · cases hsome

/-- Numbered text is rendered text: a known name is answered with the reference to its place. -/
theorem sql_toPositional (sql : String) (marker : Char) (names : List String) :
    (toPositional sql marker names).sql = substitute sql marker fun name =>
      (lastIdxOf? name (names.map (logicalName marker))).map fun i =>
        referenceText ((toPositional sql marker names).order.idxOf i + 1) := by
  rw [toPositional_eq]

/-- All rewritings of placeholders are splices at the ranges that a scan finds:
* a renderer, whatever its effects, is asked once for each placeholder in text order, and its
  answers are spliced in; without effects this is `substitute`;
* answers that repeat what stands there, and no answers, leave the text as it is;
* replacing the first placeholder of a name fails exactly if there is none, and else is rendering
  with a renderer that answers the first question for that name only;
* numbering is rendering with the reference to the place of each known name. -/
theorem rewriters_splice (sql : String) (marker : Char) :
    (∀ {m : Type → Type} [Monad m] [LawfulMonad m] (render : String → m (Option String)),
      utf8 <$> substituteM sql marker render =
        (fun answers => splice sql ((scan sql marker).zip answers)) <$>
          (scan sql marker).mapM fun p => render p.name) ∧
    (∀ render, substituteM (m := Id) sql marker (fun name => pure (render name)) =
      pure (substitute sql marker render)) ∧
    substitute sql marker (fun name => some (fullName marker name)) = sql ∧
    substitute sql marker (fun _ => none) = sql ∧
    (∀ name text,
      (replaceFirst sql marker (fullName marker name) text = none ↔
        ∀ p ∈ scan sql marker, p.name ≠ name) ∧
      ((∃ p ∈ scan sql marker, p.name = name) →
        replaceFirst sql marker (fullName marker name) text =
          some ((substituteM sql marker (answerOnce name text)).run false).1)) ∧
    ∀ names, (toPositional sql marker names).sql = substitute sql marker fun name =>
      (lastIdxOf? name (names.map (logicalName marker))).map fun i =>
        referenceText ((toPositional sql marker names).order.idxOf i + 1) := by
  refine ⟨fun render => utf8_substituteM render sql marker, substituteM_pure sql marker, ?_, ?_,
    fun name text => ⟨replaceFirst_eq_none_iff, replaceFirst_eq_some⟩,
    sql_toPositional sql marker⟩
  · exact substitute_eq_self fun name text h => (Option.some.inj h).symm
  · exact substitute_eq_self nofun

end SqlAccess

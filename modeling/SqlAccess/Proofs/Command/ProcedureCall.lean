import SqlAccess.Command.Procedure

/-!
# Texts of procedure calls

Names become part of the text that calls a procedure, and what passes for an identifier stays one
there: read as double quotes are (`Text.outsideQuotes`), it closes every quote that it opens and
shows nothing outside of them but letters, digits and a few signs (`Safe`, `safe_identifier`). So a
call has one pair of parentheses that no name can close (`callSql_text`).
-/

namespace SqlAccess

/-! ## Reading double quotes -/

/-- What of a text stands outside of double quotes, if it is read from outside or inside of them.
Inside, a doubled quote stays there. A quote that is not closed leaves nothing. -/
def Text.outsideQuotes : Bool → List Char → Option (List Char)
  | false, [] => some []
  | true, [] => none
  | false, c :: rest =>
    if c = '"' then outsideQuotes true rest else (outsideQuotes false rest).map (c :: ·)
  | true, '"' :: '"' :: rest => outsideQuotes true rest
  | true, c :: rest => outsideQuotes (c != '"') rest

/-- A character of a call outside of quotes, the parentheses apart. -/
def isCallChar (c : Char) : Bool :=
  c.isAlphanum || ['_', '$', '.', ',', '=', '>', '*', ' '].contains c

open Text (outsideQuotes)

/-- In front of a text that does not begin with a double quote, `s` closes all quotes that it opens,
and `shown` stands outside of them. -/
def Shows (s shown : List Char) : Prop :=
  ∀ rest, rest.head? ≠ some '"' →
    outsideQuotes false (s ++ rest) = (outsideQuotes false rest).map (shown ++ ·)

theorem Shows.append {s s' shown shown' : List Char} (h : Shows s shown) (h' : Shows s' shown')
    (hq : s'.head? ≠ some '"') : Shows (s ++ s') (shown ++ shown') := by
  intro rest hrest
  have hhead : (s' ++ rest).head? ≠ some '"' := by
    cases s' with
    | nil => exact hrest
    | cons c s' => exact hq
  rw [List.append_assoc, h _ hhead, h' _ hrest]
  simp [Function.comp_def]

theorem ne_quote_of_isCallChar {c : Char} (hc : isCallChar c = true) : c ≠ '"' := by
  rintro rfl
  revert hc
  decide

/-- Characters of a call show themselves, whatever follows. -/
theorem outsideQuotes_append {s : List Char} (h : ∀ c ∈ s, isCallChar c = true)
    (rest : List Char) :
    outsideQuotes false (s ++ rest) = (outsideQuotes false rest).map (s ++ ·) := by
  induction s with
  | nil => simp
  | cons c s ih =>
    have hne := ne_quote_of_isCallChar (h c List.mem_cons_self)
    rw [List.cons_append, outsideQuotes, if_neg hne, ih fun d hd => h d (List.mem_cons_of_mem c hd)]
    simp [Function.comp_def]

/-- Paired quotes keep the reader inside, and the next quote lets it out. -/
theorem outsideQuotes_inside {inner rest : List Char} (h : quotesPaired inner = true)
    (hrest : rest.head? ≠ some '"') :
    outsideQuotes true (inner ++ '"' :: rest) = outsideQuotes false rest := by
  induction inner using quotesPaired.induct with
  | case1 =>
    cases rest with
    | nil => rfl
    | cons c rest =>
      have hc : c ≠ '"' := by simpa using hrest
      simp [outsideQuotes, hc]
  | case2 inner ih => exact ih h
  | case3 c inner hpair ih =>
    rw [quotesPaired] at h
    · obtain ⟨hc, hinner⟩ := Bool.and_eq_true_iff.1 h
      have hne : c ≠ '"' := by simpa using hc
      rw [List.cons_append, outsideQuotes]
      · rw [hc]
        exact ih hinner
      · intro rest' hc'
        exact absurd hc' hne
    · exact hpair

/-! ## Safe texts -/

/-- In front of anything but a double quote, the text closes its quotes and shows only characters of
a call. -/
def Safe (s : List Char) : Prop :=
  ∃ shown, Shows s shown ∧ ∀ c ∈ shown, isCallChar c = true

theorem safe_of_isCallChar {s : List Char} (h : ∀ c ∈ s, isCallChar c = true) : Safe s :=
  ⟨s, fun rest _ => outsideQuotes_append h rest, h⟩

theorem Safe.append {s s' : List Char} (h : Safe s) (h' : Safe s') (hq : s'.head? ≠ some '"') :
    Safe (s ++ s') := by
  obtain ⟨shown, hs, hc⟩ := h
  obtain ⟨shown', hs', hc'⟩ := h'
  refine ⟨shown ++ shown', hs.append hs' hq, fun c hm => ?_⟩
  rcases List.mem_append.1 hm with hm | hm
  · exact hc c hm
  · exact hc' c hm

/-- Behind characters of a call, a quote may follow. -/
theorem Safe.prepend {s s' : List Char} (h : Safe s') (hs : ∀ c ∈ s, isCallChar c = true) :
    Safe (s ++ s') := by
  obtain ⟨shown, hs', hc⟩ := h
  refine ⟨s ++ shown, fun rest hrest => ?_, fun c hm => ?_⟩
  · rw [List.append_assoc, outsideQuotes_append hs, hs' rest hrest]
    simp [Function.comp_def]
  · rcases List.mem_append.1 hm with hm | hm
    · exact hs c hm
    · exact hc c hm

theorem safe_intercalate {sep : List Char} (hsep : ∀ c ∈ sep, isCallChar c = true)
    (hne : sep ≠ []) {parts : List (List Char)} (h : ∀ part ∈ parts, Safe part) :
    Safe (sep.intercalate parts) := by
  induction parts with
  | nil => exact safe_of_isCallChar nofun
  | cons part parts ih =>
    have hpart := h part List.mem_cons_self
    have hrest := ih fun p hp => h p (List.mem_cons_of_mem part hp)
    cases parts with
    | nil =>
      rw [List.intercalate_singleton]
      exact hpart
    | cons next parts =>
      rw [List.intercalate_cons_cons, List.append_assoc]
      refine hpart.append (hrest.prepend hsep) ?_
      obtain ⟨c, sep, rfl⟩ := List.exists_cons_of_ne_nil hne
      have hc := ne_quote_of_isCallChar (hsep c List.mem_cons_self)
      simpa using hc

/-! ## Identifiers -/

theorem isCallChar_of_plain {c : Char} (h : (c.isAlphanum || c == '_' || c == '$') = true) :
    isCallChar c = true := by
  simp only [Bool.or_eq_true, beq_iff_eq] at h
  rcases h with (h | rfl) | rfl
  · simp [isCallChar, h]
  · decide
  · decide

theorem safe_identifier {part : List Char} (h : isIdentifier part = true) : Safe part := by
  rw [isIdentifier] at h
  split at h
  · next hq =>
    obtain ⟨hlength, hhead, hlast⟩ := hq
    obtain ⟨-, hpaired⟩ := Bool.and_eq_true_iff.1 h
    -- the part is its inside between two different quotes
    obtain ⟨front, rfl⟩ := List.getLast?_eq_some_iff.1 hlast
    cases front with
    | nil => simp at hlength
    | cons c inner =>
      obtain rfl : c = '"' := by simpa using hhead
      have hpaired : quotesPaired inner = true := by simpa using hpaired
      refine ⟨[], fun rest hrest => ?_, nofun⟩
      simp [outsideQuotes, outsideQuotes_inside hpaired hrest]
  · cases part with
    | nil => cases h
    | cons c rest =>
      obtain ⟨hc, hrest⟩ := Bool.and_eq_true_iff.1 h
      refine safe_of_isCallChar fun d hd => isCallChar_of_plain ?_
      rcases List.mem_cons.1 hd with rfl | hd
      · rcases Bool.or_eq_true_iff.1 hc with hc | hc <;> simp [Char.isAlphanum, hc]
      · exact List.all_eq_true.1 hrest d hd

theorem safe_procedureName {name : String} (h : isProcedureName name = true) :
    Safe name.toList := by
  rw [← Text.intercalate_splitAtEach '.' name.toList]
  exact safe_intercalate (List.all_eq_true.1 rfl) (by decide) fun part hpart =>
    safe_identifier (List.all_eq_true.1 h part hpart)

/-! ## Calls -/

/-- A call takes its input parameters, or fails on the first of them whose name is no identifier. -/
theorem callArguments_eq (name : String) (marker : Char) (ps : List (Parameter × Nat)) :
    let inputs := ps.filter (·.1.direction.isInput)
    callArguments name marker ps =
      match inputs.find? fun p => !isIdentifier (p.1.logicalName marker).toList with
      | some p => .error (.invalidArgumentName (p.1.logicalName marker) name)
      | none => .ok (inputs.map fun p => (p.1.logicalName marker, p.2)) := by
  intro inputs
  induction ps with
  | nil => rfl
  | cons p ps ih =>
    obtain ⟨p, i⟩ := p
    rw [callArguments]
    cases hi : p.direction.isInput with
    | false => simpa [inputs, hi] using ih
    | true =>
      cases hid : isIdentifier (p.logicalName marker).toList with
      | false => simp [inputs, hi, hid]
      | true =>
        simp only [inputs, hi, hid, ih, if_true, List.filter_cons_of_pos, List.find?_cons,
          Bool.not_true, List.map_cons]
        cases (ps.filter (·.1.direction.isInput)).find?
            fun p => !isIdentifier (p.1.logicalName marker).toList with
        | none => rfl
        | some q => rfl

section

variable (name : String) (marker : Char) (parameters : List Parameter)

/-- The input parameters with their positions. -/
def placedInputs : List (Parameter × Nat) :=
  parameters.zipIdx.filter (·.1.direction.isInput)

/-- How the input parameters stand in a call. -/
def callArgumentTexts : List String :=
  (parameters.filter (·.direction.isInput)).mapIdx fun k p =>
    p.logicalName marker ++ " => $" ++ Nat.repr (k + 1)

theorem map_fst_placedInputs :
    (placedInputs parameters).map (·.1) = parameters.filter (·.direction.isInput) := by
  conv => rhs; rw [← List.zipIdx_map_fst 0 parameters]
  rw [List.filter_map]
  rfl

theorem mapIdx_placedInputs :
    ((placedInputs parameters).map fun p => (p.1.logicalName marker, p.2)).mapIdx
      (fun k (argument, _) => argument ++ " => $" ++ Nat.repr (k + 1)) =
    callArgumentTexts marker parameters := by
  rw [callArgumentTexts, ← map_fst_placedInputs]
  exact List.ext_getElem? fun i => by simp [Function.comp_def]

/-- A call is refused for its name, or for the first input parameter whose name is no identifier. -/
theorem callSql_eq :
    callSql name marker parameters =
      if isProcedureName name then
        match (placedInputs parameters).find? fun p =>
          !isIdentifier (p.1.logicalName marker).toList with
        | some p => .error (.invalidArgumentName (p.1.logicalName marker) name)
        | none =>
          .ok ⟨"SELECT * FROM " ++ name ++ "(" ++
            ", ".intercalate (callArgumentTexts marker parameters) ++ ")",
            (placedInputs parameters).map (·.2)⟩
      else .error (.invalidProcedureName name) := by
  have hpositions : ((placedInputs parameters).map fun p => (p.1.logicalName marker, p.2)).map
      (·.2) = (placedInputs parameters).map (·.2) := List.map_map
  rw [callSql, checkProcedureName, callArguments_eq, ← mapIdx_placedInputs, ← hpositions,
    placedInputs]
  cases isProcedureName name with
  | false => rfl
  | true =>
    cases (parameters.zipIdx.filter (·.1.direction.isInput)).find? fun p =>
        !isIdentifier (p.1.logicalName marker).toList with
    | some p => rfl
    | none => rfl

variable {name marker parameters}

theorem mem_placedInputs {p : Parameter × Nat} :
    p ∈ placedInputs parameters ↔
      parameters[p.2]? = some p.1 ∧ p.1.direction.isInput = true := by
  rw [placedInputs, List.mem_filter, List.mem_zipIdx_iff_getElem?]

theorem find?_placedInputs_eq_none_iff :
    ((placedInputs parameters).find? fun p => !isIdentifier (p.1.logicalName marker).toList) =
        none ↔
      ∀ p ∈ parameters, p.direction.isInput = true →
        isIdentifier (p.logicalName marker).toList = true := by
  rw [List.find?_eq_none]
  constructor
  · intro h p hp hi
    obtain ⟨i, hpi⟩ := List.mem_iff_getElem?.1 hp
    simpa using h (p, i) (mem_placedInputs.2 ⟨hpi, hi⟩)
  · intro h p hp
    obtain ⟨hpi, hi⟩ := mem_placedInputs.1 hp
    simpa using h p.1 (List.mem_of_getElem? hpi) hi

theorem isOk_callSql_iff :
    (callSql name marker parameters).isOk = true ↔ isProcedureName name = true ∧
      ∀ p ∈ parameters, p.direction.isInput = true →
        isIdentifier (p.logicalName marker).toList = true := by
  rw [callSql_eq, ← find?_placedInputs_eq_none_iff]
  cases isProcedureName name with
  | false => simp [Except.isOk, Except.toBool]
  | true =>
    cases (placedInputs parameters).find? fun p =>
        !isIdentifier (p.1.logicalName marker).toList with
    | some p => simp [Except.isOk, Except.toBool]
    | none => simp [Except.isOk, Except.toBool]

/-! ## Positions -/

variable (parameters) in
theorem map_getElem?_placedInputs :
    ((placedInputs parameters).map (·.2)).map (parameters[·]?) =
      (parameters.filter (·.direction.isInput)).map some := by
  rw [← map_fst_placedInputs, List.map_map, List.map_map]
  exact List.map_congr_left fun p hp => (mem_placedInputs.1 hp).1

variable (parameters) in
theorem positions_sublist :
    ((placedInputs parameters).map (·.2)).Sublist (List.range' 0 parameters.length) := by
  rw [← List.zipIdx_map_snd]
  exact List.filter_sublist.map _

/-! ## The text outside of quotes -/

theorem isCallChar_of_mem_repr {c : Char} {n : Nat} (h : c ∈ (Nat.repr n).toList) :
    isCallChar c = true := by
  rw [Nat.repr_eq_ofList_toDigits, String.toList_ofList] at h
  have hd := Nat.isDigit_of_mem_toDigits (by decide) (by decide) h
  simp [isCallChar, Char.isAlphanum, hd]

theorem safe_callArgumentText {argument : List Char} (h : isIdentifier argument = true) (n : Nat) :
    Safe (argument ++ " => $".toList ++ (Nat.repr n).toList) := by
  have hreference : ∀ c ∈ " => $".toList, isCallChar c = true := List.all_eq_true.1 rfl
  rw [List.append_assoc]
  refine (safe_identifier h).append (safe_of_isCallChar fun c hc => ?_) (by simp)
  rcases List.mem_append.1 hc with hc | hc
  · exact hreference c hc
  · exact isCallChar_of_mem_repr hc

theorem safe_callArgumentTexts (h : ∀ p ∈ parameters, p.direction.isInput = true →
    isIdentifier (p.logicalName marker).toList = true) :
    Safe (", ".intercalate (callArgumentTexts marker parameters)).toList := by
  rw [String.toList_intercalate]
  refine safe_intercalate (List.all_eq_true.1 rfl) (by decide) fun part hpart => ?_
  obtain ⟨text, htext, rfl⟩ := List.mem_map.1 hpart
  obtain ⟨k, hk, rfl⟩ := List.mem_mapIdx.1 htext
  obtain ⟨hp, hi⟩ := List.mem_filter.1 (List.getElem_mem hk)
  rw [String.toList_append, String.toList_append]
  exact safe_callArgumentText (h _ hp hi) _

/-- Between safe texts, the parentheses of a call are the only ones outside of quotes. -/
theorem outsideQuotes_call {name arguments : List Char} (hname : Safe name)
    (harguments : Safe arguments) :
    ∃ front inside, (∀ c ∈ front ++ inside, isCallChar c = true) ∧
      outsideQuotes false ("SELECT * FROM ".toList ++ name ++ ['('] ++ arguments ++ [')']) =
        some (front ++ '(' :: inside ++ [')']) := by
  obtain ⟨shownName, hname, hfront⟩ := hname
  obtain ⟨shown, harguments, hinside⟩ := harguments
  have hselect : ∀ c ∈ "SELECT * FROM ".toList, isCallChar c = true := List.all_eq_true.1 rfl
  refine ⟨"SELECT * FROM ".toList ++ shownName, shown, fun c hc => ?_, ?_⟩
  · rcases List.mem_append.1 hc with hc | hc
    · rcases List.mem_append.1 hc with hc | hc
      · exact hselect c hc
      · exact hfront c hc
    · exact hinside c hc
  · have hclose : outsideQuotes false [')'] = some [')'] := by decide
    have hopen : outsideQuotes false ('(' :: (arguments ++ [')'])) =
        some ('(' :: shown ++ [')']) := by
      rw [outsideQuotes, if_neg (by decide), harguments [')'] (by decide), hclose]
      rfl
    have htext : "SELECT * FROM ".toList ++ name ++ ['('] ++ arguments ++ [')'] =
        "SELECT * FROM ".toList ++ (name ++ '(' :: (arguments ++ [')'])) := by simp
    rw [htext, outsideQuotes_append hselect, hname _ (by simp), hopen]
    simp

end

/-- No name and no argument escapes from the call that they become part of:
* a call fails exactly if the name is refused or an input parameter is not called by an identifier;
* else its text is `SELECT * FROM name(a1 => $1, …)` with the logical names of the input
  parameters, and the positions that come with it are theirs, in strictly increasing order;
* outside of double quotes, all of which are closed, that text is one of plain characters but for
  one parenthesis that opens and one that closes at the end. -/
theorem callSql_text (name : String) (marker : Char) (parameters : List Parameter) :
    ((callSql name marker parameters).isOk = false ↔
      (checkProcedureName name).isOk = false ∨
        ∃ p ∈ parameters, p.direction.isInput = true ∧
          isIdentifier (p.logicalName marker).toList = false) ∧
    ∀ s, callSql name marker parameters = .ok s →
      s.sql = "SELECT * FROM " ++ name ++ "(" ++
        ", ".intercalate (callArgumentTexts marker parameters) ++ ")" ∧
      s.order.map (parameters[·]?) = (parameters.filter (·.direction.isInput)).map some ∧
      s.order.Pairwise (· < ·) ∧ (∀ i ∈ s.order, i < parameters.length) ∧
      ∃ front inside, (∀ c ∈ front ++ inside, isCallChar c = true) ∧
        outsideQuotes false s.sql.toList = some (front ++ '(' :: inside ++ [')']) := by
  have hcheck : (checkProcedureName name).isOk = isProcedureName name := by
    rw [checkProcedureName]
    cases isProcedureName name <;> rfl
  refine ⟨?_, fun s hs => ?_⟩
  · rw [← Bool.not_eq_true, isOk_callSql_iff, hcheck]
    cases isProcedureName name <;> simp
  · obtain ⟨hname, h⟩ := isOk_callSql_iff.1 (congrArg Except.isOk hs)
    have hsub := positions_sublist parameters
    rw [callSql_eq, if_pos hname, find?_placedInputs_eq_none_iff.2 h] at hs
    cases hs
    refine ⟨rfl, map_getElem?_placedInputs parameters, ?_, fun i hi => ?_, ?_⟩
    · exact List.Pairwise.sublist hsub (List.pairwise_lt_range' 1)
    · simpa using List.mem_range'.1 (hsub.subset hi)
    · simpa using outsideQuotes_call (safe_procedureName hname) (safe_callArgumentTexts h)

example :
    callSql "app.\"Top \"\"users\"\"\"" '@'
        [.input "@a" .null, .output "b", .inputOutput "\"c)\"" .null] =
      .ok ⟨"SELECT * FROM app.\"Top \"\"users\"\"\"(a => $1, \"c)\" => $2)", [0, 2]⟩ := by
  rfl

end SqlAccess

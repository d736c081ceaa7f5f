import SqlAccess.Proofs.Command.Output
import SqlAccess.Proofs.Command.ProcedureCall
import SqlAccess.Proofs.Command.ProcedureName

/-!
# Arguments that come back

The server returns an argument under the name that its identifier stands for (`resultColumn`), and
an output is looked for under the identifier as it is written. For a plain identifier these are the
same up to case (`sameName_resultColumn`), for a quoted one they never are
(`not_sameName_resultColumn`). So an argument that is sent and returned is read back if its name is
plain, and else only by accident (`Command.readBack_iff`).
-/

namespace SqlAccess

/-! ## The column of an argument -/

/-- What stands between double quotes, with doubled quotes made single. -/
def unquoted : List Char → List Char
  | [] => []
  | '"' :: '"' :: rest => '"' :: unquoted rest
  | c :: rest => c :: unquoted rest

/-- The column under which the server returns an argument: a plain name is in lower case there, a
quoted one is without its quotes. -/
def resultColumn (name : String) : String :=
  if name.toList.head? = some '"' then String.ofList (unquoted name.toList.tail.dropLast)
  else String.ofList (name.toList.map Char.toLower)

theorem length_unquoted_le (s : List Char) : (unquoted s).length ≤ s.length := by
  induction s using unquoted.induct with
  | case1 => exact Nat.le_refl 0
  | case2 rest ih =>
    rw [unquoted]
    simp only [List.length_cons]
    omega
  | case3 c rest hpair ih =>
    rw [unquoted]
    · simp only [List.length_cons]
      omega
    · exact hpair

variable {name : String}

theorem sameName_resultColumn (h : isPlainIdentifier name.toList = true) :
    SameName name (resultColumn name) := by
  have hhead : name.toList.head? ≠ some '"' := by
    cases hname : name.toList with
    | nil => simp
    | cons c rest =>
      rw [hname, isPlainIdentifier, Bool.and_eq_true] at h
      simpa using ne_quote_of_first h.1
  rw [resultColumn, if_neg hhead]
  exact sameName_toLower name

/-- Without its quotes, a name is shorter. -/
theorem not_sameName_resultColumn (h : isIdentifier name.toList = true)
    (hquoted : ¬ isPlainIdentifier name.toList = true) : ¬ SameName name (resultColumn name) := by
  unfold isIdentifier at h
  split at h
  · next hquotes =>
    obtain ⟨hlength, hhead, -⟩ := hquotes
    have hinner := length_unquoted_le name.toList.tail.dropLast
    intro hsame
    have heq := hsame.length_eq
    rw [resultColumn, if_pos hhead, String.toList_ofList] at heq
    simp only [List.length_dropLast, List.length_tail] at hinner
    omega
  · exact absurd h hquoted

/-! ## Reading back -/

namespace Command

variable {c : Command} {t : Table} {row : Row} {p : Parameter} {i k : Nat} {v : Value}

theorem value_withOutputs (hp : c.parameters[i]? = some p) (hd : p.direction ≠ .input) :
    (c.withOutputs t).parameters[i]?.map (·.value) = some (outputValue t p c.marker) := by
  rw [parameters_withOutputs, List.getElem?_map, hp, Option.map_some, Option.map_some,
    filled_output hd]

theorem columns_of_first? (hrow : t.first? = some row) : row.columns = t.columns :=
  t.columns_eq row (List.mem_of_head? hrow)

/-- Let a call with the argument be accepted, and let no two columns be the same up to case. Then
what the server returns for the argument is read back exactly if the name of the argument is plain,
or by accident: another column that is called by the quoted name, quotes included, has the same
value, or there is none and the value is NULL. -/
theorem readBack_iff {procedure : String} (hp : c.parameters[i]? = some p)
    (hd : p.direction = .inputOutput) (hcall : (callSql procedure c.marker [p]).isOk = true)
    (hrow : t.first? = some row) (hdistinct : DistinctColumns t.columns)
    (hk : t.columns[k]? = some (resultColumn (p.logicalName c.marker)))
    (hv : row.values[k]? = some v) :
    (c.withOutputs t).parameters[i]?.map (·.value) = some v ↔
      isPlainIdentifier (p.logicalName c.marker).toList = true ∨
      (∃ j d, j ≠ k ∧ t.columns[j]? = some d ∧ SameName (p.logicalName c.marker) d ∧
        row.values[j]? = some v) ∨
      ((∀ d ∈ t.columns, ¬ SameName (p.logicalName c.marker) d) ∧ v = .null) := by
  have hname : isIdentifier (p.logicalName c.marker).toList = true :=
    (isOk_callSql_iff.1 hcall).2 p (List.mem_singleton_self p) (by rw [hd]; rfl)
  rw [value_withOutputs hp (by rw [hd]; simp), Option.some.injEq]
  have hcolumns := columns_of_first? hrow
  rw [← hcolumns] at hdistinct hk ⊢
  cases hfind : row.ordinal? (p.logicalName c.marker) with
  | none =>
    have habsent := findColumn?_eq_none_iff.1 hfind
    rw [outputValue_of_absent hrow hfind, if_neg (by rw [hd]; simp)]
    constructor
    · rintro rfl
      exact .inr (.inr ⟨habsent, rfl⟩)
    · rintro (hplain | ⟨j, d, -, hj, hsame, -⟩ | ⟨-, rfl⟩)
      · exact absurd (sameName_resultColumn hplain) (habsent _ (List.mem_of_getElem? hk))
      · exact absurd hsame (habsent d (List.mem_of_getElem? hj))
      · rfl
  | some j =>
    obtain ⟨d, w, hj, hsame, hw⟩ := Row.exists_of_ordinal hfind
    rw [outputValue_of_ordinal hrow hfind hw]
    constructor
    · rintro rfl
      by_cases hplain : isPlainIdentifier (p.logicalName c.marker).toList = true
      · exact .inl hplain
      · refine .inr (.inl ⟨j, d, ?_, hj, hsame, hw⟩)
        rintro rfl
        rw [Option.some.inj (hj.symm.trans hk)] at hsame
        exact not_sameName_resultColumn hname hplain hsame
    · rintro (hplain | ⟨j', d', -, hj', hsame', hv'⟩ | ⟨habsent, -⟩)
      · have hfind' := findColumn?_of_sameName hdistinct hk (sameName_resultColumn hplain)
        obtain rfl : j = k := Option.some.inj (hfind.symm.trans hfind')
        exact Option.some.inj (hw.symm.trans hv)
      · have hfind' := findColumn?_of_sameName hdistinct hj' hsame'
        obtain rfl : j = j' := Option.some.inj (hfind.symm.trans hfind')
        exact Option.some.inj (hw.symm.trans hv')
      · exact absurd hsame (habsent d (List.mem_of_getElem? hj))

theorem readBack_iff_mixed_case :
    let c : Command := { Command.ofText "transfer" with
      parameters := [.input "@from" (.int64 1), .inputOutput "@Note$" (.text "draft")] }
    let t : Table := ⟨["total", "note$"],
      [⟨["total", "note$"], [.int64 90, .text "done"], rfl⟩], by simp⟩
    (callSql c.text c.marker [.inputOutput "@Note$" (.text "draft")]).isOk = true ∧
      DistinctColumns t.columns ∧ resultColumn "Note$" = "note$" ∧
      (c.withOutputs t).parameters[1]?.map (·.value) = some (.text "done") := by
  intro c t
  have hcall : (callSql c.text c.marker [.inputOutput "@Note$" (.text "draft")]).isOk = true := by
    decide
  have hdistinct : DistinctColumns t.columns := by decide
  have hiff := readBack_iff (c := c) (t := t) (i := 1) (k := 1) (v := .text "done")
    rfl rfl hcall rfl hdistinct (by decide) rfl
  exact ⟨hcall, hdistinct, by decide, hiff.2 (.inl (by decide))⟩

/-- A quoted name is sent, but what comes back for it is lost. -/
theorem not_readBack_quoted_name :
    let c : Command := { Command.ofText "transfer" with
      parameters := [.inputOutput "@\"Note\"" (.text "draft")] }
    let t : Table := ⟨["Note"], [⟨["Note"], [.text "done"], rfl⟩], by simp⟩
    callSql c.text c.marker c.parameters =
        .ok ⟨"SELECT * FROM transfer(\"Note\" => $1)", [0]⟩ ∧
      DistinctColumns t.columns ∧ resultColumn "\"Note\"" = "Note" ∧
      (c.withOutputs t).parameters[0]?.map (·.value) = some .null ∧
      (c.withOutputs t).parameters[0]?.map (·.value) ≠ some (.text "done") := by
  refine ⟨rfl, by decide, rfl, rfl, ?_⟩
  show some Value.null ≠ some (.text "done")
  simp

end Command

end SqlAccess

import SqlAccess.Proofs.Binding.SinglePass

/-!
# The statement of a bound command

The text of a command to which an object is bound reads as the original text written out
(`Command.lexemes_bindProperties`), and numbering it numbers what its placeholders refer to. So
the statement and the values sent are those of a single pass over the original text
(`Command.statement_bindSource`).
-/

namespace SqlAccess

variable {marker : Char} {args : NamedArguments} {name : String}

/-! ## The text -/

theorem writeOut_nil (seen : List String) (ls : List Lexeme) : writeOut [] seen ls = ls := by
  induction ls with
  | nil => rfl
  | cons l ls ih =>
    have hl : l.newList? [] seen = none := by cases l <;> rfl
    rw [writeOut, hl]
    exact congrArg _ ih

namespace Command

variable (c : Command)

theorem kind_bindProperties (marker : Char) (args : NamedArguments) :
    (c.bindProperties marker args).kind = c.kind := by
  induction args generalizing c with
  | nil => rfl
  | cons p args ih =>
    rw [bindProperties_cons, ih]
    cases p.2 <;> rfl

theorem marker_bindProperties (marker : Char) (args : NamedArguments) :
    (c.bindProperties marker args).marker = c.marker := by
  induction args generalizing c with
  | nil => rfl
  | cons p args ih =>
    rw [bindProperties_cons, ih]
    cases p.2 <;> rfl

theorem bindProperties_append_singleton (marker : Char) (args : NamedArguments)
    (p : String × Argument) :
    c.bindProperties marker (args ++ [p]) =
      (c.bindProperties marker args).bindArgument marker p.1 p.2 := by
  simp [bindProperties]

variable {c}

/-- The lists of bound arguments are written out as if at once. -/
theorem lexemes_bindProperties (hm : IsMarker marker)
    (hs : Separated marker (lexemes marker c.text.toList)) (hn : (args.map (·.1)).Nodup)
    (hfree : ItemNamesFree args) :
    lexemes marker (c.bindProperties marker args).text.toList =
        writeOut args [] (lexemes marker c.text.toList) ∧
      Separated marker (lexemes marker (c.bindProperties marker args).text.toList) := by
  induction args using List.reverseRecOn with
  | nil => exact ⟨(writeOut_nil [] _).symm, hs⟩
  | append_singleton args p ih =>
    obtain ⟨name, a⟩ := p
    rw [List.map_append, List.nodup_append] at hn
    obtain ⟨hargs, -, hne⟩ := hn
    have hname : name ∉ args.map (·.1) := fun hmem => hne name hmem name (by simp) rfl
    have hfree' : ItemNamesFree args := fun m hm list items hl =>
      hfree m (by simp [List.mem_map.1 hm]) list items (List.mem_append_left _ hl)
    obtain ⟨hlex, hsep⟩ := ih hargs hfree'
    rw [bindProperties_append_singleton]
    cases a with
    | scalar v =>
      rw [writeOut_scalar hname]
      exact ⟨hlex, hsep⟩
    | list items =>
      obtain ⟨hlist, hsep'⟩ := lexemes_bindList hm hsep name items
      refine ⟨?_, hsep'⟩
      rw [writeOut_list hname (by simp), ← hlex]
      · exact hlist
      · intro list items' hl
        exact hfree name (by simp) list items' (List.mem_append_left _ hl)

end Command

/-! ## The numbers -/

theorem getElem?_eq_some_iff_idxOf {α : Type} [DecidableEq α] {l : List α} (hl : l.Nodup) {a : α}
    {i : Nat} : l[i]? = some a ↔ a ∈ l ∧ l.idxOf a = i := by
  constructor
  · intro h
    obtain ⟨hi, rfl⟩ := List.getElem?_eq_some_iff.1 h
    exact ⟨List.getElem_mem hi, hl.idxOf_getElem i hi⟩
  · rintro ⟨ha, rfl⟩
    exact List.getElem?_idxOf ha

/-- The position that the look-up of a name finds is that of what the name refers to. -/
theorem lastIdxOf?_labels (hn : (args.map (·.1)).Nodup) (hu : Uncaptured args) (name : String) :
    lastIdxOf? name ((referents args).map (·.label)) =
      (referent? args name).map (referents args).idxOf := by
  refine Option.ext fun i => ?_
  rw [lastIdxOf?_eq_some_iff_of_nodup ((nodup_labels_iff hn).2 hu), List.getElem?_map,
    Option.map_eq_some_iff, Option.map_eq_some_iff]
  refine exists_congr fun r => ?_
  rw [getElem?_eq_some_iff_idxOf (nodup_referents hn), referent?_eq_some_iff hu]
  tauto

theorem references_append (xs ys : List Piece) :
    references (xs ++ ys) = references xs ++ references ys :=
  List.filterMap_append

theorem references_char (s : List Char) : references (s.map .char) = [] := by
  simp [references, Piece.reference?]

theorem written_char (order : List Referent) (s : List Char) :
    (s.map Piece.char).flatMap (·.written order) = s := by
  rw [List.flatMap_map]
  exact List.flatMap_singleton' s

/-- The positions that lexemes call are those of what their pieces refer to. -/
theorem filterMap_called? {find? : String → Option Nat} {pos : Referent → Nat}
    (h : ∀ name, find? name = (referent? args name).map pos) (ls : List Lexeme) :
    ls.filterMap (·.called? find?) =
      (references (ls.flatMap (·.pieces marker args))).map pos := by
  induction ls with
  | nil => rfl
  | cons l ls ih =>
    rw [List.flatMap_cons, references_append, List.map_append, ← ih]
    cases l with
    | plain c => rfl
    | region kind text =>
      rw [Lexeme.pieces, references_char]
      · rfl
      · intro name h
        cases h
    | placeholder name =>
      have hfind : (Lexeme.placeholder name).called? find? =
          (referent? args (String.ofList name)).map pos := h (String.ofList name)
      cases hr : referent? args (String.ofList name) with
      | none =>
        rw [hr] at hfind
        rw [List.filterMap_cons_none hfind, Lexeme.pieces, hr, references_char]
        rfl
      | some r =>
        rw [hr] at hfind
        rw [List.filterMap_cons_some hfind, Lexeme.pieces, hr]
        rfl

theorem rendered_eq {find? : String → Option Nat} {pos : Referent → Nat}
    (h : ∀ name, find? name = (referent? args name).map pos) {order : List Referent}
    {number : Nat → Nat} {l : Lexeme}
    (hnumber : ∀ r ∈ references (l.pieces marker args), number (pos r) = order.idxOf r) :
    l.rendered marker (fun name => (find? name).map fun i => referenceText (number i + 1)) =
      (l.pieces marker args).flatMap (·.written order) := by
  cases l with
  | plain c => rfl
  | region kind text =>
    rw [Lexeme.pieces, written_char]
    · rfl
    · intro name h
      cases h
  | placeholder name =>
    cases hr : referent? args (String.ofList name) with
    | none =>
      rw [Lexeme.pieces, hr, written_char, Lexeme.rendered, h, hr]
      rfl
    | some r =>
      rw [Lexeme.pieces, hr] at hnumber ⊢
      rw [Lexeme.rendered, h, hr]
      have := hnumber r (by simp [references, Piece.reference?])
      simp [Piece.written, this]

theorem mem_references_iff {r : Referent} {pieces : List Piece} :
    r ∈ references pieces ↔ .reference r ∈ pieces := by
  simp only [references, List.mem_filterMap]
  constructor
  · rintro ⟨_ | s, hmem, hs⟩
    · cases hs
    · cases hs
      exact hmem
  · intro h
    exact ⟨_, h, rfl⟩

/-- Placeholders refer to arguments only. -/
theorem mem_referents_of_mem_references {r : Referent} {ls : List Lexeme}
    (h : r ∈ references (ls.flatMap (·.pieces marker args))) : r ∈ referents args := by
  obtain ⟨l, -, hr⟩ := List.mem_flatMap.1 (mem_references_iff.1 h)
  cases l with
  | plain c => simp [Lexeme.pieces] at hr
  | region kind text => simp [Lexeme.pieces] at hr
  | placeholder name =>
    rw [Lexeme.pieces] at hr
    split at hr
    · next s hs =>
      obtain rfl : r = s := by simpa using hr
      exact List.mem_of_find?_eq_some hs
    · simp at hr

/-- A text whose placeholders are numbered by what they refer to. -/
theorem toPositional_labels (hn : (args.map (·.1)).Nodup) (hu : Uncaptured args) {sql : String}
    {names : List String}
    (hnames : names.map (logicalName marker) = (referents args).map (·.label)) :
    let pieces := (lexemes marker sql.toList).flatMap (·.pieces marker args)
    toPositional sql marker names =
      ⟨writtenText pieces, (referenced pieces).map (referents args).idxOf⟩ := by
  intro pieces
  have hfind := lastIdxOf?_labels hn hu
  have hmem : ∀ r ∈ references pieces, r ∈ referents args := fun r hr =>
    mem_referents_of_mem_references hr
  have hinj : ∀ r ∈ references pieces, ∀ s ∈ references pieces,
      (referents args).idxOf r = (referents args).idxOf s → r = s := by
    intro r hr s _ h
    exact (List.idxOf_inj (hmem r hr)).1 h
  have horder : ((lexemes marker sql.toList).filterMap
      (·.called? (lastIdxOf? · ((referents args).map (·.label))))).eraseDups =
      (referenced pieces).map (referents args).idxOf := by
    rw [filterMap_called? hfind, eraseDups_map hinj]
    rfl
  have h := toPositional_eq sql marker names
  rw [hnames] at h
  simp only [horder] at h
  rw [h, substitute, writtenText, List.flatMap_assoc]
  congr 2
  refine List.flatMap_congr fun l hl => rendered_eq hfind fun r hr => ?_
  have hrp : r ∈ references pieces :=
    mem_references_iff.2 (List.mem_flatMap.2 ⟨l, hl, mem_references_iff.1 hr⟩)
  exact idxOf_map fun s hs => hinj s (List.mem_eraseDups.1 hs) r hrp

namespace Command

variable {c : Command} {source : ParameterSource}

/-- Where an argument's parameter is, its value is. -/
theorem value_of_mem_referents (hc : c.parameters = []) (hn : (args.map (·.1)).Nodup)
    {r : Referent} (hr : r ∈ referents args) :
    ∃ v, r.value? args = some v ∧
      (c.bindProperties marker args).parameters[(referents args).idxOf r]?.map (·.value) =
        some v := by
  have hget : ((boundValues args)[(referents args).idxOf r]?).map (·.1) = some r := by
    rw [← List.getElem?_map]
    exact List.getElem?_idxOf hr
  obtain ⟨⟨_, v⟩, hv, rfl⟩ := Option.map_eq_some_iff.1 hget
  refine ⟨v, Referent.value?_of_mem hn (List.mem_of_getElem? hv), ?_⟩
  rw [parameters_bindProperties, hc, List.nil_append, List.getElem?_map, hv]
  rfl

/-- Binding an object to a text command and numbering its references is one pass over the original
text: the statement is what the pass writes, and for each reference the value of what it refers to
is sent. -/
theorem statement_bindSource (hm : IsMarker c.marker) (hk : c.kind = .text)
    (hc : c.parameters = []) (hs : Separated c.marker (lexemes c.marker c.text.toList))
    (hsource : source.properties? = some args) (hn : (args.map (·.1)).Nodup)
    (hfree : ItemNamesFree args) :
    let bound := c.bindSource c.marker source
    let pieces := singlePass c.marker args [] (lexemes c.marker c.text.toList)
    ∃ p, bound.statement = .ok p ∧ p.sql = writtenText pieces ∧
      (bound.sentValues p).map some = (referenced pieces).map (·.value? args) := by
  intro bound pieces
  have hbound : bound = c.bindProperties c.marker args := bindSource_of_properties hsource
  have hu := hfree.uncaptured
  have htext : (lexemes c.marker bound.text.toList).flatMap (·.pieces c.marker args) = pieces := by
    rw [hbound, (lexemes_bindProperties hm hs hn hfree).1, pieces_writeOut hfree]
  have hnames : bound.parameterNames.map (logicalName c.marker) =
      (referents args).map (·.label) := by
    rw [hbound, logicalNames_of_empty hc]
  have hpos : toPositional bound.text c.marker bound.parameterNames = _ :=
    toPositional_labels hn hu hnames
  rw [htext] at hpos
  have hstatement :
      bound.statement = .ok (toPositional bound.text c.marker bound.parameterNames) := by
    have hkind : bound.kind = .text := by rw [hbound, kind_bindProperties, hk]
    have hmarker : bound.marker = c.marker := by rw [hbound, marker_bindProperties]
    simp only [statement, hkind, hmarker]
  refine ⟨_, hstatement, by rw [hpos], ?_⟩
  have hvalue : ∀ r ∈ referenced pieces, ∃ v, r.value? args = some v ∧
      bound.parameters[(referents args).idxOf r]?.map (·.value) = some v := by
    intro r hr
    rw [hbound]
    have hmem := List.mem_eraseDups.1 hr
    rw [← htext] at hmem
    exact value_of_mem_referents hc hn (mem_referents_of_mem_references hmem)
  rw [hpos, sentValues, List.filterMap_map, List.map_filterMap_some_eq_filter_map_isSome]
  have hmap : (referenced pieces).map ((fun i => bound.parameters[i]?.map (·.value)) ∘
      (referents args).idxOf) = (referenced pieces).map (·.value? args) := by
    refine List.map_congr_left fun r hr => ?_
    obtain ⟨v, hv, hv'⟩ := hvalue r hr
    exact hv'.trans hv.symm
  rw [hmap]
  refine List.filter_eq_self.2 fun v? hv => ?_
  obtain ⟨r, hr, rfl⟩ := List.mem_map.1 hv
  obtain ⟨v, hv, -⟩ := hvalue r hr
  rw [hv]
  rfl

theorem statement_bindSource_two_lists :
    let c := ofText "id IN (@ids) AND k = @k AND s <> '@ids' AND x IN (@no) OR @ids = @ids_1"
    let args : NamedArguments :=
      [("ids", .list [.int32 7, .int32 8]), ("no", .list []), ("k", .scalar (.int32 9))]
    IsMarker c.marker ∧ Separated c.marker (lexemes c.marker c.text.toList) ∧
      (args.map (·.1)).Nodup ∧ ItemNamesFree args ∧
      ∃ p, (c.bindSource c.marker (.shared args)).statement = .ok p ∧
        p.sql = "id IN ($1, $2) AND k = $3 AND s <> '@ids' AND x IN (NULL) OR @ids = $2" ∧
        ((c.bindSource c.marker (.shared args)).sentValues p).map (·.literal) =
          ["7", "8", "9"] := by
  intro c args
  have hm : IsMarker c.marker := ⟨by decide, by decide, by decide, by decide⟩
  have hs : Separated c.marker (lexemes c.marker c.text.toList) := by decide +kernel
  have hn : (args.map (·.1)).Nodup := by decide
  have hfree : ItemNamesFree args := by
    have hplain : ∀ name ∈ args.map (·.1), '_' ∉ name.toList := by decide
    intro name hname list items _ i _ he
    refine hplain name hname ?_
    rw [he, toList_itemLabel]
    simp
  have hsource : (ParameterSource.shared args).properties? = some args := rfl
  obtain ⟨p, hp, hsql, hv⟩ := statement_bindSource hm rfl rfl hs hsource hn hfree
  refine ⟨hm, hs, hn, hfree, p, hp, hsql.trans (by decide +kernel), ?_⟩
  have hliterals := congrArg (List.map (Option.map Value.literal)) hv
  rw [List.map_map] at hliterals
  refine List.map_injective_iff.2 (fun a b h => Option.some.inj h) ?_
  rw [List.map_map]
  exact hliterals.trans (by decide +kernel)

end Command

end SqlAccess

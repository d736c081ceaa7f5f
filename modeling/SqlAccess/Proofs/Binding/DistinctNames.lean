import SqlAccess.Proofs.Binding.Referent

/-!
# Distinct parameter names

An object whose properties have pairwise distinct names is bound to parameters with pairwise
distinct names exactly if none of its single values is called like an item of one of its lists
(`parameterNames_nodup_iff`). Then every parameter is found under its own name.
-/

namespace SqlAccess

/-- The properties of a source that is an object. -/
def ParameterSource.properties? : ParameterSource → Option NamedArguments
  | .shared properties => some properties
  | .owned properties => some properties
  | _ => none

namespace Command

variable {c : Command} {marker : Char} {source : ParameterSource} {args : NamedArguments}

theorem bindSource_of_properties (h : source.properties? = some args) :
    c.bindSource marker source = c.bindProperties marker args := by
  cases source with
  | shared properties => cases h; rfl
  | owned properties => cases h; rfl
  | empty => cases h
  | parameters ps => cases h

theorem parameterNames_of_empty (hc : c.parameters = []) :
    (c.bindProperties marker args).parameterNames =
      ((referents args).map (·.label)).map (fullName marker) := by
  have hnil : c.parameterNames = [] := by simp [parameterNames, hc]
  rw [parameterNames_bindProperties, hnil, List.nil_append, List.map_map]
  rfl

/-- The logical names of bound parameters are the labels. -/
theorem logicalNames_of_empty (hc : c.parameters = []) :
    (c.bindProperties marker args).parameterNames.map (logicalName marker) =
      (referents args).map (·.label) := by
  rw [parameterNames_of_empty hc, List.map_map]
  exact (List.map_congr_left fun name _ => logicalName_fullName marker name).trans (List.map_id _)

/-- Binding an object captures nothing exactly if no single value is called like an item of a
list; then the look-up in which the last parameter of a name counts finds every parameter. -/
theorem parameterNames_nodup_iff (hc : c.parameters = [])
    (hs : source.properties? = some args) (hn : (args.map (·.1)).Nodup) :
    ((c.bindSource marker source).parameterNames.Nodup ↔ Uncaptured args) ∧
      (Uncaptured args → ∀ i p, (c.bindSource marker source).parameters[i]? = some p →
        lastIdxOf? (p.logicalName marker)
          ((c.bindSource marker source).parameterNames.map (logicalName marker)) = some i) := by
  rw [bindSource_of_properties hs]
  refine ⟨?_, fun hu i p hp => ?_⟩
  · rw [parameterNames_of_empty hc, List.nodup_map_iff fun _ _ => fullName_inj,
      nodup_labels_iff hn]
  · have hlogical :
        ((c.bindProperties marker args).parameterNames.map (logicalName marker)).Nodup := by
      rw [logicalNames_of_empty hc]
      exact (nodup_labels_iff hn).2 hu
    rw [lastIdxOf?_eq_some_iff_of_nodup hlogical]
    simp [parameterNames, hp, Parameter.logicalName]

theorem parameterNames_nodup_two_lists :
    let args : NamedArguments :=
      [("ids", .list [.int64 10, .int64 20]), ("ids_2", .scalar .null), ("a", .list [.null])]
    let c := (ofText "").bindSource '@' (.shared args)
    (args.map (·.1)).Nodup ∧ Uncaptured args ∧ c.parameterNames.Nodup ∧
      lastIdxOf? "ids_1" (c.parameterNames.map (logicalName '@')) = some 1 := by
  intro args c
  have hn : (args.map (·.1)).Nodup := by decide
  have hu : Uncaptured args := (nodup_labels_iff hn).1 (by decide)
  have hs : (ParameterSource.shared args).properties? = some args := rfl
  have hc : (ofText "").parameters = [] := rfl
  obtain ⟨hnodup, hfound⟩ : (c.parameterNames.Nodup ↔ _) ∧ _ := parameterNames_nodup_iff hc hs hn
  exact ⟨hn, hu, hnodup.2 hu, hfound hu 1 (.input "@ids_1" (.int64 20)) rfl⟩

/-- The item of a list and a single value of the same name share one name, and the look-up finds
the single value for both. -/
theorem captured_item :
    let args : NamedArguments := [("ids", .list [.int64 10]), ("ids_0", .scalar (.int64 5))]
    let c := (ofText "SELECT @ids").bindSource '@' (.shared args)
    (args.map (·.1)).Nodup ∧ ¬ c.parameterNames.Nodup ∧
      c.parameters[0]?.map (·.logicalName '@') = some "ids_0" ∧
      lastIdxOf? "ids_0" (c.parameterNames.map (logicalName '@')) = some 1 := by
  decide

end Command

end SqlAccess

import ThemeBlocks.Proofs.Theme.Fragments

/-! What PHP finds under the keys of a field. Of equal keys in an array the last one counts. A field has its
own entries first, then the parameters that the operator gives, then the condition; and the registry asks
nothing of the names of parameters. So a parameter stands in for an entry of its name, and the condition
for a parameter of its name. -/

namespace ThemeBlocks.Php.Expr

/-- The value under a key of an array whose items all have keys: of equal keys the last one counts. -/
def valueAt? (key : String) : Expr → Option Expr
  | .array items =>
    if items.all (·.1.isSome) then (items.reverse.find? (·.1 = some key)).map (·.2) else none
  | _ => none

variable {key : String} {value : Expr} {front entries back : List (String × Expr)}

theorem valueAt?_assoc (key : String) (entries : List (String × Expr)) :
    (assoc entries).valueAt? key = (entries.reverse.find? (·.1 = key)).map (·.2) := by
  have hkeyed : (entries.map fun entry => (some entry.1, entry.2)).all (·.1.isSome) := by simp
  rw [assoc, valueAt?, if_pos hkeyed, ← List.map_reverse, List.find?_map, Option.map_map]
  simp only [Function.comp_def, Option.some.injEq]

theorem valueAt?_eq_none_iff :
    (assoc entries).valueAt? key = none ↔ key ∉ entries.map (·.1) := by
  rw [valueAt?_assoc, Option.map_eq_none_iff, List.find?_eq_none]
  simp only [List.mem_reverse, decide_eq_true_eq, List.mem_map, not_exists, not_and]

theorem valueAt?_append_of_not_mem (h : key ∉ back.map (·.1)) :
    (assoc (entries ++ back)).valueAt? key = (assoc entries).valueAt? key := by
  rw [← valueAt?_eq_none_iff, valueAt?_assoc, Option.map_eq_none_iff] at h
  rw [valueAt?_assoc, valueAt?_assoc, List.reverse_append, List.find?_append, h, Option.none_or]

theorem valueAt?_concat (key : String) (value : Expr) (entries : List (String × Expr)) :
    (assoc (entries ++ [(key, value)])).valueAt? key = some value := by
  rw [valueAt?_assoc, List.reverse_concat, List.find?_cons_of_pos (by simp)]
  rfl

theorem valueAt?_of_mem (hmem : (key, value) ∈ entries) (hkeys : (entries.map (·.1)).Nodup)
    (hback : key ∉ back.map (·.1)) : (assoc (front ++ entries ++ back)).valueAt? key = some value := by
  obtain ⟨before, behind, rfl⟩ := List.append_of_mem hmem
  have hbehind : key ∉ behind.map (·.1) := by
    rw [List.map_append, List.map_cons, List.nodup_append] at hkeys
    exact (List.nodup_cons.1 hkeys.2.1).1
  have hsplit : front ++ (before ++ (key, value) :: behind) =
      front ++ before ++ [(key, value)] ++ behind := by simp
  rw [valueAt?_append_of_not_mem hback, hsplit, valueAt?_append_of_not_mem hbehind, valueAt?_concat]

end ThemeBlocks.Php.Expr

namespace ThemeBlocks.Theme

open Php (Expr)
open Declaration (parameterEntries conditionEntries)

def structuralEntries (spec : Block.Attribute) : List (String × Expr) :=
  [("key", .text ("field_" ++ spec.fieldName)),
    ("label", .text spec.fieldName),
    ("name", .text spec.fieldName),
    ("type", .text spec.fieldType.backendName)]

def conditionExpr (condition : Block.Condition) : Expr :=
  .sequence [.sequence [.assoc [
    ("field", .text ("field_" ++ condition.field)),
    ("operator", .text condition.operator),
    ("value", .text condition.value)]]]

def parametersOf (spec : Block.Attribute) : List (String × String) :=
  spec.parameters.getD []

theorem toExpr_eq_assoc (spec : Block.Attribute) :
    (Field.ofAttribute spec).toExpr = .assoc (structuralEntries spec ++
      parameterEntries (parametersOf spec) ++ conditionEntries spec.condition) :=
  Declaration.toExpr_ofAttribute spec

variable {spec : Block.Attribute}

theorem keys_structuralEntries (spec : Block.Attribute) :
    (structuralEntries spec).map (·.1) = ["key", "label", "name", "type"] :=
  rfl

theorem keys_parameterEntries (parameters : List (String × String)) :
    (parameterEntries parameters).map (·.1) = parameters.map (·.1) := by
  simp [parameterEntries]

theorem mem_keys_conditionEntries_iff {key : String} :
    key ∈ (conditionEntries spec.condition).map (·.1) ↔
      ¬ (key = "conditional_logic" → spec.condition = none) := by
  cases spec.condition <;> simp [conditionEntries]

theorem ne_of_mem_structuralEntries {entry : String × Expr} (h : entry ∈ structuralEntries spec) :
    entry.1 ≠ "conditional_logic" := by
  have hkey := List.mem_map_of_mem (f := (·.1)) h
  rw [keys_structuralEntries] at hkey
  rintro heq
  rw [heq] at hkey
  exact absurd hkey (by decide)

theorem valueAt?_structural {entry : String × Expr} (h : entry ∈ structuralEntries spec)
    (hfree : entry.1 ∉ (parametersOf spec).map (·.1)) :
    (Field.ofAttribute spec).toExpr.valueAt? entry.1 = some entry.2 := by
  have hkeys : ((structuralEntries spec).map (·.1)).Nodup := by
    rw [keys_structuralEntries]
    decide
  rw [toExpr_eq_assoc, List.append_assoc, ← List.nil_append (structuralEntries spec)]
  refine Expr.valueAt?_of_mem h hkeys ?_
  rw [List.map_append, List.mem_append, keys_parameterEntries, mem_keys_conditionEntries_iff]
  exact not_or.2 ⟨hfree, not_not.2 fun heq => absurd heq (ne_of_mem_structuralEntries h)⟩

theorem valueAt?_parameter (hkeys : ((parametersOf spec).map (·.1)).Nodup)
    {parameter : String × String} (h : parameter ∈ parametersOf spec)
    (hfree : parameter.1 = "conditional_logic" → spec.condition = none) :
    (Field.ofAttribute spec).toExpr.valueAt? parameter.1 = some (.text parameter.2) := by
  rw [toExpr_eq_assoc]
  refine Expr.valueAt?_of_mem (List.mem_map.2 ⟨parameter, h, rfl⟩) ?_ ?_
  · rw [keys_parameterEntries]
    exact hkeys
  · rw [mem_keys_conditionEntries_iff]
    exact not_not.2 hfree

theorem valueAt?_condition {condition : Block.Condition} (h : spec.condition = some condition) :
    (Field.ofAttribute spec).toExpr.valueAt? "conditional_logic" = some (conditionExpr condition) := by
  rw [toExpr_eq_assoc, h]
  exact Expr.valueAt?_concat _ _ _

theorem valueAt?_eq_none_iff_free {key : String} :
    (Field.ofAttribute spec).toExpr.valueAt? key = none ↔
      key ∉ ["key", "label", "name", "type"] ∧ key ∉ (parametersOf spec).map (·.1) ∧
        (key = "conditional_logic" → spec.condition = none) := by
  rw [toExpr_eq_assoc, Expr.valueAt?_eq_none_iff, List.map_append, List.map_append, List.mem_append,
    List.mem_append, keys_structuralEntries, keys_parameterEntries, mem_keys_conditionEntries_iff,
    not_or, not_or, not_not, and_assoc]

theorem conditionExpr_injective : Function.Injective conditionExpr := by
  intro condition other h
  have hentries : conditionEntries (some condition) = conditionEntries (some other) :=
    congrArg (fun value => [("conditional_logic", value)]) h
  exact Option.some.inj (Declaration.conditionEntries_injective hentries)

theorem valueAt?_condition_iff (hkeys : ((parametersOf spec).map (·.1)).Nodup)
    {condition : Block.Condition} :
    (Field.ofAttribute spec).toExpr.valueAt? "conditional_logic" = some (conditionExpr condition) ↔
      spec.condition = some condition := by
  refine ⟨fun h => ?_, valueAt?_condition⟩
  cases hcondition : spec.condition with
  | some other =>
    rw [valueAt?_condition hcondition, Option.some.injEq] at h
    rw [conditionExpr_injective h]
  | none =>
    -- A parameter of that name would be found, but it is a text and no condition.
    by_cases hname : "conditional_logic" ∈ (parametersOf spec).map (·.1)
    · obtain ⟨parameter, hparameter, heq⟩ := List.mem_map.1 hname
      rw [← heq, valueAt?_parameter hkeys hparameter fun _ => hcondition] at h
      cases h
    · rw [valueAt?_eq_none_iff_free.2 ⟨by decide, hname, fun _ => hcondition⟩] at h
      cases h

/-- Nothing stands in for anything: the entries that every field has, the parameters and the condition are
all found under their keys. -/
structure AllFound (spec : Block.Attribute) : Prop where
  structural : ∀ entry ∈ structuralEntries spec,
    (Field.ofAttribute spec).toExpr.valueAt? entry.1 = some entry.2
  parameters : ∀ parameter ∈ parametersOf spec,
    (Field.ofAttribute spec).toExpr.valueAt? parameter.1 = some (.text parameter.2)
  condition : ∀ condition,
    (Field.ofAttribute spec).toExpr.valueAt? "conditional_logic" = some (conditionExpr condition) ↔
      spec.condition = some condition

theorem allFound_iff (hkeys : ((parametersOf spec).map (·.1)).Nodup) :
    AllFound spec ↔
      (∀ entry ∈ structuralEntries spec, ∀ parameter ∈ parametersOf spec,
        parameter.1 = entry.1 → .text parameter.2 = entry.2) ∧
      ("conditional_logic" ∈ (parametersOf spec).map (·.1) → spec.condition = none) := by
  constructor
  · intro h
    refine ⟨fun entry hentry parameter hparameter hsame => ?_, fun hname => ?_⟩
    · have hfound := h.parameters parameter hparameter
      rw [hsame, h.structural entry hentry, Option.some.injEq] at hfound
      exact hfound.symm
    · obtain ⟨parameter, hparameter, heq⟩ := List.mem_map.1 hname
      have hfound := h.parameters parameter hparameter
      cases hcondition : spec.condition with
      | none => rfl
      | some condition =>
        rw [show parameter.1 = "conditional_logic" from heq, valueAt?_condition hcondition] at hfound
        cases hfound
  · rintro ⟨hsame, hnone⟩
    have hparameters : ∀ parameter ∈ parametersOf spec,
        (Field.ofAttribute spec).toExpr.valueAt? parameter.1 = some (.text parameter.2) :=
      fun parameter hparameter => valueAt?_parameter hkeys hparameter fun heq =>
        hnone (List.mem_map.2 ⟨parameter, hparameter, heq⟩)
    refine ⟨fun entry hentry => ?_, hparameters, fun condition => valueAt?_condition_iff hkeys⟩
    by_cases hname : entry.1 ∈ (parametersOf spec).map (·.1)
    · obtain ⟨parameter, hparameter, heq⟩ := List.mem_map.1 hname
      rw [← heq, hparameters parameter hparameter, hsame entry hentry parameter hparameter heq]
    · exact valueAt?_structural hentry hname

/-- The four entries of a field are found as they were generated, unless a parameter has the same name;
parameters are found as they were declared, unless one is called like the declared condition; the
condition is found if one is declared; and nothing else is found. So all is found as it was declared
exactly if no parameter gives another value to one of the four entries and none is called like a declared
condition. -/
theorem field_values (hkeys : ((parametersOf spec).map (·.1)).Nodup) :
    let field := (Field.ofAttribute spec).toExpr
    (∀ entry ∈ structuralEntries spec, entry.1 ∉ (parametersOf spec).map (·.1) →
      field.valueAt? entry.1 = some entry.2) ∧
    (∀ parameter ∈ parametersOf spec,
      (parameter.1 = "conditional_logic" → spec.condition = none) →
        field.valueAt? parameter.1 = some (.text parameter.2)) ∧
    (∀ condition, field.valueAt? "conditional_logic" = some (conditionExpr condition) ↔
      spec.condition = some condition) ∧
    (∀ key, field.valueAt? key = none ↔
      key ∉ ["key", "label", "name", "type"] ∧ key ∉ (parametersOf spec).map (·.1) ∧
        (key = "conditional_logic" → spec.condition = none)) ∧
    (AllFound spec ↔
      (∀ entry ∈ structuralEntries spec, ∀ parameter ∈ parametersOf spec,
        parameter.1 = entry.1 → .text parameter.2 = entry.2) ∧
      ("conditional_logic" ∈ (parametersOf spec).map (·.1) → spec.condition = none)) :=
  ⟨fun _ => valueAt?_structural, fun _ => valueAt?_parameter hkeys,
    fun _ => valueAt?_condition_iff hkeys, fun _ => valueAt?_eq_none_iff_free, allFound_iff hkeys⟩

def retitled : Block.Attribute where
  fieldType := .text
  fieldName := "hero_title"
  parameters := some [("label", "Title"), ("required", "1")]

theorem field_values_retitled :
    ((parametersOf retitled).map (·.1)).Nodup ∧
      (Field.ofAttribute retitled).toExpr.valueAt? "name" = some (.text "hero_title") ∧
      (Field.ofAttribute retitled).toExpr.valueAt? "label" = some (.text "Title") ∧
      (Field.ofAttribute retitled).toExpr.valueAt? "conditional_logic" = none := by
  have hkeys : ((parametersOf retitled).map (·.1)).Nodup := by decide
  obtain ⟨hstructural, hparameters, -, hfree, -⟩ := field_values hkeys
  refine ⟨hkeys, ?_, ?_, ?_⟩
  · exact hstructural ("name", .text "hero_title") (by simp [structuralEntries, retitled]) (by decide)
  · exact hparameters ("label", "Title") (by decide) (by decide)
  · exact (hfree "conditional_logic").2 ⟨by decide, by decide, fun _ => rfl⟩

def ruled : Block.Attribute where
  fieldType := .link
  fieldName := "hero_button"
  parameters := some [("conditional_logic", "0")]
  condition := some ⟨"hero_show_button", "==", "1"⟩

def clashingParameters : Registry where
  blocks := [{
    blockName := "hero", displayName := "Hero", typeName := "AcfHero"
    attributes := some [("title", retitled), ("button", ruled)] }]
  accepted := rfl

/-- The registry takes both attributes. In the field of the one, the parameter stands where the label should
be; in the field of the other, the condition stands where the parameter should be. -/
theorem clashingParameters_replace :
    clashingParameters.blocks.flatMap Block.Descriptor.attributeList =
        [("title", retitled), ("button", ruled)] ∧
      (Field.ofAttribute retitled).toExpr.valueAt? "label" = some (.text "Title") ∧
      ¬ AllFound retitled ∧
      (Field.ofAttribute ruled).toExpr.valueAt? "conditional_logic" =
        some (conditionExpr ⟨"hero_show_button", "==", "1"⟩) ∧
      ¬ AllFound ruled := by
  have hlabel : (Field.ofAttribute retitled).toExpr.valueAt? "label" = some (.text "Title") := by rfl
  have hcondition : (Field.ofAttribute ruled).toExpr.valueAt? "conditional_logic" =
      some (conditionExpr ⟨"hero_show_button", "==", "1"⟩) := by rfl
  refine ⟨rfl, hlabel, fun hall => ?_, hcondition, fun hall => ?_⟩
  · have hfound := hall.structural ("label", .text "hero_title") (by simp [structuralEntries, retitled])
    rw [hlabel, Option.some.injEq, Expr.text.injEq] at hfound
    exact absurd hfound (by decide)
  · have hfound := hall.parameters ("conditional_logic", "0") (by decide)
    rw [hcondition] at hfound
    cases hfound

end ThemeBlocks.Theme

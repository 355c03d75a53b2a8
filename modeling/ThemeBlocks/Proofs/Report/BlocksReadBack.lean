import ThemeBlocks.Proofs.Block.Verdict
import ThemeBlocks.Proofs.Json.Shapes
import ThemeBlocks.Report.Content

/-! The blocks of a registry, written as JSON and read back. Every part of a descriptor is taken by the
shape that stands for it, so the whole list is read as it was written, and the registry accepts it
again. A part that is not given is left out and is read as not given; an empty list or map that is
given is written and is read as given. -/

namespace ThemeBlocks.Block

open Json

section Entries

variable {α : Type}

theorem insertLast_of_not_mem {entries : List (String × α)} {key : String} (value : α)
    (h : key ∉ entries.map (·.1)) : insertLast entries key value = entries ++ [(key, value)] := by
  induction entries with
  | nil => rfl
  | cons entry entries ih =>
    obtain ⟨k, v⟩ := entry
    rw [List.map_cons, List.mem_cons, not_or] at h
    rw [insertLast, if_neg (Ne.symm h.1), ih h.2, List.cons_append]

theorem ofEntries_of_nodup {entries : List (String × α)} (h : (entries.map (·.1)).Nodup) :
    ofEntries entries = entries := by
  have hfold : ∀ acc : List (String × α), ((acc ++ entries).map (·.1)).Nodup →
      entries.foldl (fun acc entry => insertLast acc entry.1 entry.2) acc = acc ++ entries := by
    clear h
    induction entries with
    | nil => simp
    | cons entry entries ih =>
      intro acc hacc
      have hfresh : entry.1 ∉ acc.map (·.1) := by
        intro hmem
        rw [List.map_append, List.nodup_append] at hacc
        exact hacc.2.2 _ hmem _ List.mem_cons_self rfl
      rw [List.foldl_cons, insertLast_of_not_mem _ hfresh, ih, List.append_assoc, List.singleton_append]
      rwa [List.append_assoc, List.singleton_append]
  exact hfold [] h

theorem takes_entries {shape : Shape α} {depth : Nat} {entries : List (String × α)}
    {toJson : α → Value} (hnodup : (entries.map (·.1)).Nodup)
    (h : ∀ entry ∈ entries, Takes shape depth (toJson entry.2) entry.2) :
    Takes (fun room source => do
      let (entries, rest) ← Shape.map shape room source
      .ok (ofEntries entries, rest)) (depth + 1)
      (.object (entries.map fun entry => (entry.1, toJson entry.2))) entries := by
  have hmap : Takes (Shape.map shape) (depth + 1)
      (.object (entries.map fun entry => (entry.1, toJson entry.2))) entries := by
    refine takes_map ?_
    rw [List.forall₂_map_left_iff, List.forall₂_same]
    exact fun entry hentry => ⟨rfl, h entry hentry⟩
  simpa only [ofEntries_of_nodup hnodup] using hmap.map ofEntries

end Entries

section Members

variable {σ α : Type} {fields : List (Shape.Field σ)} {depth : Nat} {key : String}

theorem takes_fieldOf {name : String} {needed : Bool} {shape : Shape α} {get : σ → Option α}
    {store : σ → α → σ} {value : Value} {result : α} (state : σ)
    (h : Takes shape depth value result) :
    Takes ((fieldOf name needed shape get store).read state) depth value (store state result) :=
  h.map (store state)

theorem fills_memberIf {field : Shape.Field σ} {toJson : α → Value} (next : Option α → σ)
    (given : Option α) (hfind : fields.find? (·.name = key) = some field)
    (hunset : field.isSet (next none) = false)
    (h : ∀ value, given = some value →
      Takes (field.read (next none)) depth (toJson value) (next (some value))) :
    Fills fields depth (next none) (memberIf key toJson given) (next given) := by
  cases given with
  | none => exact .nil _
  | some value => exact .cons hfind hunset (h value rfl) (.nil _)

end Members

theorem takes_texts (depth : Nat) (texts : List String) :
    Takes (Shape.list Shape.text) (depth + 1) (textsToJson texts) texts :=
  takes_list_map fun text _ => takes_text depth text

theorem takes_condition (depth : Nat) (condition : Condition) :
    Takes Condition.shape (depth + 1) condition.toJson condition := by
  have hfills : Fills Condition.fields depth {}
      [("field", .string condition.field), ("operator", .string condition.operator),
        ("value", .string condition.value)]
      ⟨some condition.field, some condition.operator, some condition.value⟩ := by
    refine .cons rfl rfl (takes_fieldOf _ (takes_text depth _)) ?_
    refine .cons rfl rfl (takes_fieldOf _ (takes_text depth _)) ?_
    exact .cons rfl rfl (takes_fieldOf _ (takes_text depth _)) (.nil _)
  exact takes_record hfills rfl

/-- The additional parameters have each key once, as any ordered map has. -/
def Attribute.ParametersDiffer (spec : Attribute) : Prop :=
  ((spec.parameters.getD []).map (·.1)).Nodup

instance (spec : Attribute) : Decidable spec.ParametersDiffer :=
  inferInstanceAs (Decidable (List.Nodup _))

/-- The attribute as far as it has been read when these of its optional parts have been met. -/
def Attribute.draftWith (spec : Attribute) (options : Option (List String))
    (parameters : Option (List (String × String))) (condition : Option Condition) : Attribute.Draft where
  sourceType := some spec.sourceType
  fieldType := some spec.fieldType
  fieldName := some spec.fieldName
  options := options.map some
  parameters := parameters.map some
  condition := condition.map some

theorem Attribute.finish_draftWith (spec : Attribute) :
    (spec.draftWith spec.options spec.parameters spec.condition).finish = .ok spec := by
  obtain ⟨sourceType, fieldType, fieldName, options, parameters, condition⟩ := spec
  cases options <;> cases parameters <;> cases condition <;> rfl

theorem takes_attribute (depth : Nat) {spec : Attribute} (hparameters : spec.ParametersDiffer) :
    Takes Attribute.shape (depth + 2) spec.toJson spec := by
  have hnodup : ∀ entries, spec.parameters = some entries → (entries.map (·.1)).Nodup := by
    intro entries hentries
    rwa [Attribute.ParametersDiffer, hentries] at hparameters
  have hplain : Fills Attribute.fields (depth + 1) {}
      [("source_type", .string spec.sourceType), ("field_type", .string spec.fieldType.name),
        ("field_name", .string spec.fieldName)] (spec.draftWith none none none) := by
    refine .cons rfl rfl (takes_fieldOf _ (takes_text _ _)) ?_
    refine .cons rfl rfl (takes_fieldOf _ (takes_variant _ spec.fieldType.ofName?_name)) ?_
    exact .cons rfl rfl (takes_fieldOf _ (takes_text _ _)) (.nil _)
  have hoptions : Fills Attribute.fields (depth + 1) (spec.draftWith none none none)
      (memberIf "options" textsToJson spec.options) (spec.draftWith spec.options none none) :=
    fills_memberIf (spec.draftWith · none none) spec.options rfl rfl
      fun texts _ => takes_fieldOf _ (takes_optional (takes_texts depth texts))
  have hparameters : Fills Attribute.fields (depth + 1) (spec.draftWith spec.options none none)
      (memberIf "additional_parameters"
        (fun entries => .object (entries.map fun entry => (entry.1, .string entry.2))) spec.parameters)
      (spec.draftWith spec.options spec.parameters none) :=
    fills_memberIf (spec.draftWith spec.options · none) spec.parameters rfl rfl
      fun entries hentries => takes_fieldOf _ (takes_optional
        (takes_entries (hnodup entries hentries) fun entry _ => takes_text depth entry.2))
  have hcondition : Fills Attribute.fields (depth + 1)
      (spec.draftWith spec.options spec.parameters none)
      (memberIf "conditional_logic" Condition.toJson spec.condition)
      (spec.draftWith spec.options spec.parameters spec.condition) :=
    fills_memberIf (spec.draftWith spec.options spec.parameters) spec.condition rfl rfl
      fun condition _ => takes_fieldOf _ (takes_optional (takes_condition depth condition))
  exact takes_record (((hplain.append hoptions).append hparameters).append hcondition)
    spec.finish_draftWith

theorem nodup_attributeKeys {block : Descriptor} (h : FitKeys block) :
    (block.attributeList.map (·.1)).Nodup := by
  rw [FitKeys, ← Function.comp_def Php.identifier, ← List.map_map] at h
  exact h.of_map _

def Descriptor.draftWith (block : Descriptor) (attributes : Option (List (String × Attribute))) :
    Descriptor.Draft where
  blockName := some block.blockName
  displayName := some block.displayName
  description := some block.description
  icon := some block.icon
  keywords := some block.keywords
  typeName := some block.typeName
  attributes := attributes.map some

theorem Descriptor.finish_draftWith (block : Descriptor) :
    (block.draftWith block.attributes).finish = .ok block := by
  obtain ⟨_, _, _, _, _, _, attributes⟩ := block
  cases attributes <;> rfl

theorem takes_descriptor (depth : Nat) {block : Descriptor} (hkeys : FitKeys block)
    (hparameters : ∀ entry ∈ block.attributeList, entry.2.ParametersDiffer) :
    Takes Descriptor.shape (depth + 4) block.toJson block := by
  have hplain : Fills Descriptor.fields (depth + 3) {}
      [("block_name", .string block.blockName), ("display_name", .string block.displayName),
        ("description", .string block.description), ("icon", .string block.icon),
        ("keywords", textsToJson block.keywords), ("gql_type_name", .string block.typeName)]
      (block.draftWith none) := by
    refine .cons rfl rfl (takes_fieldOf _ (takes_text _ _)) ?_
    refine .cons rfl rfl (takes_fieldOf _ (takes_text _ _)) ?_
    refine .cons rfl rfl (takes_fieldOf _ (takes_text _ _)) ?_
    refine .cons rfl rfl (takes_fieldOf _ (takes_text _ _)) ?_
    refine .cons rfl rfl (takes_fieldOf _ (takes_texts _ _)) ?_
    exact .cons rfl rfl (takes_fieldOf _ (takes_text _ _)) (.nil _)
  have hattributes : Fills Descriptor.fields (depth + 3) (block.draftWith none)
      (memberIf "attributes"
        (fun entries => .object (entries.map fun entry => (entry.1, entry.2.toJson))) block.attributes)
      (block.draftWith block.attributes) := by
    refine fills_memberIf block.draftWith block.attributes rfl rfl fun entries hentries => ?_
    have hlist : block.attributeList = entries := by
      rw [Descriptor.attributeList, hentries, Option.getD_some]
    have hnodup := nodup_attributeKeys hkeys
    rw [hlist] at hparameters hnodup
    exact takes_fieldOf _ (takes_optional
      (takes_entries hnodup fun entry hentry => takes_attribute depth (hparameters entry hentry)))
  exact takes_record (hplain.append hattributes) block.finish_draftWith

end ThemeBlocks.Block

namespace ThemeBlocks.Report

open Block (Descriptor)

/-- The blocks of a registry are read back from either layout as they are, in their order and with all
their parts, and the registry accepts them again. -/
theorem blocksJson_reads_back (isPretty : Bool) (registry : Registry)
    (h : ∀ block ∈ registry.blocks, ∀ entry ∈ block.attributeList, entry.2.ParametersDiffer) :
    Block.readDescriptors (blocksJson isPretty registry) = .ok registry.blocks ∧
      Registry.ofBlocks registry.blocks = .ok registry := by
  have hfit := Block.check_eq_ok_iff_acceptable.1 registry.accepted
  have htakes : Json.Takes Block.descriptorsShape 5 (Block.descriptorsToJson registry.blocks)
      registry.blocks :=
    Json.takes_list_map fun block hblock =>
      Block.takes_descriptor 0 (hfit.keys block hblock) (h block hblock)
  -- A list of objects with maps of objects with maps: five brackets, of which 127 may be open.
  have hdepth : 5 < Json.bracketLimit := by decide
  exact ⟨Json.readAs_of_takes htakes hdepth (Json.isText_render _ isPretty),
    Registry.ofBlocks_eq_ok_iff.2 rfl⟩

def manyParts : Registry where
  blocks := [
    { blockName := "hero", displayName := "Größe \"5\" \\ \n\t\x00\x1f"
      description := "🦀/\u2028", keywords := ["z", "a", "z"], typeName := "AcfHero"
      attributes := some [
        ("zeta",
          { fieldType := .richText, fieldName := "z", options := some [], parameters := some [] }),
        ("alpha",
          { sourceType := "\x7f", fieldType := .boolean, fieldName := "", options := some ["b", "a"]
            parameters := some [("k", "v"), ("", "\x08\x0c")], condition := some ⟨"z", "==", "1"⟩ })] },
    { blockName := "bare", displayName := "", typeName := "AB", attributes := some [] },
    { blockName := "plain", displayName := "Plain", typeName := "CD" }]
  accepted := rfl

theorem blocksJson_reads_back_manyParts :
    (∀ block ∈ manyParts.blocks, ∀ entry ∈ block.attributeList, entry.2.ParametersDiffer) ∧
      Block.readDescriptors (blocksJson true manyParts) = .ok manyParts.blocks ∧
      Registry.ofBlocks manyParts.blocks = .ok manyParts :=
  have h : ∀ block ∈ manyParts.blocks, ∀ entry ∈ block.attributeList, entry.2.ParametersDiffer := by
    decide
  ⟨h, blocksJson_reads_back true manyParts h⟩

end ThemeBlocks.Report

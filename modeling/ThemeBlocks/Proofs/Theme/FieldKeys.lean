import Mathlib.Data.List.Nodup
import Mathlib.Data.List.Perm.Basic
import ThemeBlocks.Proofs.Block.Accepted
import ThemeBlocks.Theme.Bundle

/-! The keys under which the backend knows groups of fields and fields. The key of a group and its location
come of the name of its block alone, and block names differ. The keys of fields come of two spaces of
names with one beginning: the names of the blocks, for the headings, and the field names that operators
choose. The registry holds the first space apart and asks nothing of the second. -/

namespace ThemeBlocks.Theme

open Block (Descriptor)

def groupsOf (registry : Registry) : List FieldGroup :=
  registry.blocks.map FieldGroup.ofBlock

def fieldKeys (groups : List FieldGroup) : List String :=
  groups.flatMap fun group => group.fields.map Field.key

def fieldNames (registry : Registry) : List String :=
  registry.blocks.flatMap fun block => block.attributeList.map (·.2.fieldName)

theorem nodup_map_append_iff {start : String} {texts : List String} :
    (texts.map (start ++ ·)).Nodup ↔ texts.Nodup :=
  List.nodup_map_iff fun _ _ h => (String.append_right_inj start).1 h

theorem fieldGroups_ofRegistry (registry : Registry) (options : Options) :
    (Bundle.ofRegistry registry options).blocks.map Compiled.fieldGroup =
      (groupsOf registry).map fun group => group.toStmt.render := by
  simp [Bundle.ofRegistry, groupsOf, compile]

/-- One beginning stands in front of every key, so only the names behind it decide. -/
theorem keys_ofBlock (block : Descriptor) :
    (FieldGroup.ofBlock block).fields.map Field.key =
      (block.blockName :: block.attributeList.map (·.2.fieldName)).map ("field_" ++ ·) := by
  simp [FieldGroup.ofBlock, Field.heading, Field.ofAttribute]

theorem exists_perm_fieldKeys (registry : Registry) :
    ∃ names : List String, fieldKeys (groupsOf registry) = names.map ("field_" ++ ·) ∧
      names.Perm (registry.blocks.map Descriptor.blockName ++ fieldNames registry) := by
  refine ⟨registry.blocks.flatMap fun block =>
    block.blockName :: block.attributeList.map (·.2.fieldName), ?_, ?_⟩
  · simp only [fieldKeys, groupsOf, List.flatMap_map, keys_ofBlock, List.map_flatMap]
  · exact (List.map_append_flatMap_perm registry.blocks _ _).symm

theorem nodup_fieldKeys_iff (registry : Registry) :
    (fieldKeys (groupsOf registry)).Nodup ↔
      (fieldNames registry).Nodup ∧
        ∀ block ∈ registry.blocks, block.blockName ∉ fieldNames registry := by
  obtain ⟨names, hkeys, hperm⟩ := exists_perm_fieldKeys registry
  rw [hkeys, nodup_map_append_iff, hperm.nodup_iff, List.nodup_append']
  have hblocks := registry.nodup_blockNames
  have hdisjoint : (registry.blocks.map Descriptor.blockName).Disjoint (fieldNames registry) ↔
      ∀ block ∈ registry.blocks, block.blockName ∉ fieldNames registry := List.forall_mem_map
  rw [hdisjoint]
  exact and_iff_right hblocks

/-- The groups that are generated differ in their keys and in their locations. Their fields, headings
and attributes of all blocks together, differ in their keys exactly if no two attributes share a field
name and no attribute has the name of a block as its field name. -/
theorem keys_of_groups (registry : Registry) (options : Options) :
    (Bundle.ofRegistry registry options).blocks.map Compiled.fieldGroup =
        ((groupsOf registry).map fun group => group.toStmt.render) ∧
      ((groupsOf registry).map FieldGroup.key).Nodup ∧
      ((groupsOf registry).map fun group => group.location.value).Nodup ∧
      ((fieldKeys (groupsOf registry)).Nodup ↔
        (fieldNames registry).Nodup ∧
          ∀ block ∈ registry.blocks, block.blockName ∉ fieldNames registry) := by
  have hkeys : (groupsOf registry).map FieldGroup.key =
      (registry.blocks.map Descriptor.blockName).map ("group_" ++ ·) := by
    simp [groupsOf, FieldGroup.ofBlock]
  have hlocations : ((groupsOf registry).map fun group => group.location.value) =
      (registry.blocks.map Descriptor.blockName).map ("acf/" ++ ·) := by
    simp [groupsOf, FieldGroup.ofBlock, LocationRule.ofBlock, Descriptor.registeredName]
  refine ⟨fieldGroups_ofRegistry registry options, ?_, ?_, nodup_fieldKeys_iff registry⟩
  · rw [hkeys, nodup_map_append_iff]
    exact registry.nodup_blockNames
  · rw [hlocations, nodup_map_append_iff]
    exact registry.nodup_blockNames

def sharedNames : Registry where
  blocks := [
    { blockName := "hero", displayName := "Hero", typeName := "AcHero"
      attributes := some [("title", { fieldType := .text, fieldName := "title" })] },
    { blockName := "teaser", displayName := "Teaser", typeName := "AcTeaser"
      attributes := some [("title", { fieldType := .text, fieldName := "title" }),
        ("lead", { fieldType := .link, fieldName := "hero" })] }]
  accepted := rfl

theorem not_nodup_fieldKeys_sharedNames :
    fieldKeys (groupsOf sharedNames) =
        ["field_hero", "field_title", "field_teaser", "field_title", "field_hero"] ∧
      ¬ (fieldKeys (groupsOf sharedNames)).Nodup := by
  have hkeys : fieldKeys (groupsOf sharedNames) =
      ["field_hero", "field_title", "field_teaser", "field_title", "field_hero"] := rfl
  refine ⟨hkeys, ?_⟩
  rw [hkeys]
  decide

end ThemeBlocks.Theme

import ThemeBlocks.Block.Registry
import ThemeBlocks.Proofs.Results

/-! What an accepted list of blocks has passed, check by check. -/

namespace ThemeBlocks.Block

open Text

theorem checkName_eq_ok_iff {block : Descriptor} :
    checkName block = .ok () ↔ isBlockName block.blockName := by
  unfold checkName
  split <;> simp_all

theorem checkEach_eq_ok_iff {blocks : List Descriptor} :
    checkEach blocks = .ok () ↔
      ∀ block ∈ blocks, checkName block = .ok () ∧ checkKeys block = .ok () := by
  induction blocks with
  | nil => simp [checkEach]
  | cons block blocks ih =>
    rw [List.forall_mem_cons, ← ih, checkEach, check_bind_eq_ok_iff, check_bind_eq_ok_iff,
      and_assoc]

theorem check_eq_ok_iff {blocks : List Descriptor} :
    check blocks = .ok () ↔
      checkEach blocks = .ok () ∧ checkBlockNames blocks = .ok () ∧ checkTypes blocks = .ok () := by
  rw [check, check_bind_eq_ok_iff, check_bind_eq_ok_iff]

theorem firstClash_eq_none_iff {α β : Type} [DecidableEq β] {view : α → β} {earlier xs : List α} :
    firstClash view earlier xs = none ↔
      (xs.map view).Nodup ∧ ∀ x ∈ xs, ∀ y ∈ earlier, view y ≠ view x := by
  induction xs generalizing earlier with
  | nil => simp [firstClash]
  | cons x xs ih =>
    rw [firstClash, List.map_cons, List.nodup_cons, List.forall_mem_cons]
    cases hfind : earlier.find? (view · = view x) with
    | some y =>
      have hview : view y = view x := by simpa using List.find?_some hfind
      have hmem := List.mem_of_find?_eq_some hfind
      simp only [reduceCtorEq, false_iff]
      rintro ⟨-, hnone, -⟩
      exact hnone y hmem hview
    | none =>
      have hnone : ∀ y ∈ earlier, view y ≠ view x := by simpa using hfind
      have hlater : (∀ z ∈ xs, ∀ y ∈ earlier ++ [x], view y ≠ view z) ↔
          (∀ z ∈ xs, ∀ y ∈ earlier, view y ≠ view z) ∧ view x ∉ xs.map view := by
        simp only [List.forall_mem_append, List.forall_mem_singleton, forall_and, List.mem_map,
          not_exists, not_and]
        exact and_congr_right fun _ => forall₂_congr fun z _ => ne_comm
      rw [ih, hlater]
      constructor
      · rintro ⟨hnodup, hearlier, hfresh⟩
        exact ⟨⟨hfresh, hnodup⟩, hnone, hearlier⟩
      · rintro ⟨⟨hfresh, hnodup⟩, -, hearlier⟩
        exact ⟨hnodup, hearlier, hfresh⟩

theorem isNameChar_of_isBlockName {name : String} (h : isBlockName name) {c : Char}
    (hc : c ∈ name.toList) : isNameChar c := by
  unfold isBlockName at h
  cases hn : name.toList with
  | nil => simp [hn] at hc
  | cons d rest =>
    simp only [hn, Bool.and_eq_true, List.all_eq_true] at h hc
    rcases List.mem_cons.1 hc with rfl | hrest
    · exact h.1.2
    · exact h.2 c hrest

end ThemeBlocks.Block

namespace ThemeBlocks.Registry

open Block

variable (registry : Registry)

theorem isBlockName_of_mem {block : Descriptor} (h : block ∈ registry.blocks) :
    isBlockName block.blockName :=
  checkName_eq_ok_iff.1 (checkEach_eq_ok_iff.1 (check_eq_ok_iff.1 registry.accepted).1 block h).1

theorem nodup_blockNames : (registry.blocks.map Descriptor.blockName).Nodup := by
  have hnames := (check_eq_ok_iff.1 registry.accepted).2.1
  unfold checkBlockNames at hnames
  split at hnames
  · next hclash => exact (firstClash_eq_none_iff.1 hclash).1
  · cases hnames

theorem checkTypes_blocks : checkTypes registry.blocks = .ok () :=
  (check_eq_ok_iff.1 registry.accepted).2.2

end ThemeBlocks.Registry

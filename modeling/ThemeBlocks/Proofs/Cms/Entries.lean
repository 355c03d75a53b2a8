import Mathlib.Logic.Basic
import ThemeBlocks.Proofs.Cms.Accounting

/-! What becomes of the entries of data. Each entry is placed once, as a collection or among the others.
The others are kept as they are; a collection has one node for each element of its list, in order, and
a node has the members of its element but for the block list. -/

namespace ThemeBlocks.Cms

open Json

def IsNodeOf (element : Value) (node : ContentNode) : Prop :=
  ∃ members, element = .object members ∧ node.fields = withoutKey "editorBlocks" members

/-- The collection holds the list of the entry, one node for each element. -/
def Unfolds (entry : String × Value) (collection : String × List ContentNode) : Prop :=
  collection.1 = entry.1 ∧ ∃ elements, entry.2.member? "nodes" = some (.array elements) ∧
    List.Forall₂ IsNodeOf elements collection.2

/-- The entry has a list under `nodes` that holds objects only. -/
def ListsObjects (entry : Value) : Prop :=
  ∃ nodes : List (List (String × Value)),
    entry.member? "nodes" = some (.array (nodes.map Value.object))

structure Placed (entries : List (String × Value)) (snapshot : Snapshot) : Prop where
  keys : (snapshot.collections.map (·.1) ++ snapshot.other.map (·.1)).Perm (entries.map (·.1))
  /-- The keys of an object differ, and each of them is in one place only. -/
  once : (entries.map (·.1)).Nodup → ∀ key ∈ entries.map (·.1),
    Xor (key ∈ snapshot.collections.map (·.1)) (key ∈ snapshot.other.map (·.1))
  other : snapshot.other.Sublist entries
  other_iff : ∀ entry ∈ entries, entry ∈ snapshot.other ↔ ¬ ListsObjects entry.2
  unfolded : ∀ entry ∈ entries, ListsObjects entry.2 →
    ∃ collection ∈ snapshot.collections, Unfolds entry collection
  collections : ∀ collection ∈ snapshot.collections, ∃ entry ∈ entries, Unfolds entry collection

theorem forall₂_isNodeOf (nodes : List (List (String × Value))) :
    List.Forall₂ IsNodeOf (nodes.map Value.object) (nodes.map keptNode) := by
  rw [List.forall₂_map_left_iff, List.forall₂_map_right_iff, List.forall₂_same]
  exact fun members _ => ⟨members, rfl, rfl⟩

theorem forall₂_unfolds (entries : List (String × Value)) :
    List.Forall₂ Unfolds (entries.filter fun entry => (collectionNodes? entry.2).isSome)
      ((collectionsOf entries).map fun collection => (collection.1, collection.2.map keptNode)) := by
  induction entries with
  | nil => exact .nil
  | cons entry entries ih =>
    rw [collectionsOf, List.filterMap_cons, List.filter_cons]
    cases hnodes : collectionNodes? entry.2 with
    | none => exact ih
    | some nodes =>
      have helements := collectionNodes?_eq_some_iff.1 hnodes
      exact .cons ⟨rfl, _, helements, forall₂_isNodeOf nodes⟩ ih

theorem map_fst_of_forall₂_unfolds {entries : List (String × Value)}
    {collections : List (String × List ContentNode)} (h : List.Forall₂ Unfolds entries collections) :
    collections.map (·.1) = entries.map (·.1) := by
  induction h with
  | nil => rfl
  | cons hunfolds _ ih => rw [List.map_cons, List.map_cons, hunfolds.1, ih]

theorem listsObjects_iff {entry : Value} :
    ListsObjects entry ↔ (collectionNodes? entry).isSome := by
  rw [Option.isSome_iff_exists]
  simp only [collectionNodes?_eq_some_iff]
  exact Iff.rfl

section Forall₂

variable {α β : Type} {r : α → β → Prop} {xs : List α} {ys : List β}

theorem exists_of_mem_forall₂ (h : List.Forall₂ r xs ys) {y : β} (hy : y ∈ ys) : ∃ x ∈ xs, r x y := by
  induction h with
  | nil => cases hy
  | cons hxy _ ih =>
    rcases List.mem_cons.1 hy with rfl | hy
    · exact ⟨_, List.mem_cons_self, hxy⟩
    · obtain ⟨x, hx, hr⟩ := ih hy
      exact ⟨x, List.mem_cons_of_mem _ hx, hr⟩

theorem exists_of_forall₂_mem (h : List.Forall₂ r xs ys) {x : α} (hx : x ∈ xs) : ∃ y ∈ ys, r x y :=
  exists_of_mem_forall₂ h.flip hx

end Forall₂

theorem xor_mem_of_nodup {α : Type} {xs ys : List α} (h : (xs ++ ys).Nodup) {x : α}
    (hx : x ∈ xs ++ ys) : Xor (x ∈ xs) (x ∈ ys) := by
  have hdisjoint := (List.nodup_append.1 h).2.2
  rcases List.mem_append.1 hx with hleft | hright
  · exact .inl ⟨hleft, fun hright => hdisjoint x hleft x hright rfl⟩
  · exact .inr ⟨hright, fun hleft => hdisjoint x hleft x hright rfl⟩

theorem placed_of_decodeEntries {entries : List (String × Value)} {snapshot : Snapshot}
    (hcollections : snapshot.collections =
      (collectionsOf entries).map fun collection => (collection.1, collection.2.map keptNode))
    (hother : snapshot.other = entries.filter fun entry => (collectionNodes? entry.2).isNone) :
    Placed entries snapshot := by
  have hunfolds := forall₂_unfolds entries
  rw [← hcollections] at hunfolds
  have hkeys : (snapshot.collections.map (·.1) ++ snapshot.other.map (·.1)).Perm
      (entries.map (·.1)) := by
    have hsplit := (List.filter_append_perm
      (fun entry : String × Value => (collectionNodes? entry.2).isSome) entries).map (·.1)
    rw [List.map_append] at hsplit
    rw [map_fst_of_forall₂_unfolds hunfolds, hother]
    simpa using hsplit
  refine ⟨hkeys, fun hnodup key hkey => ?_, hother ▸ List.filter_sublist, fun entry hentry => ?_,
    fun entry hentry hlists => ?_, fun collection hcollection => ?_⟩
  · exact xor_mem_of_nodup (hkeys.nodup_iff.2 hnodup) (hkeys.mem_iff.2 hkey)
  · rw [hother, List.mem_filter, listsObjects_iff]
    simp [hentry]
  · exact exists_of_forall₂_mem hunfolds (List.mem_filter.2 ⟨hentry, listsObjects_iff.1 hlists⟩)
  · obtain ⟨entry, hentry, hunfold⟩ := exists_of_mem_forall₂ hunfolds hcollection
    exact ⟨entry, List.mem_of_mem_filter hentry, hunfold⟩

end ThemeBlocks.Cms

import Mathlib.Algebra.GroupWithZero.Nat
import ThemeBlocks.CommandLine.Run
import ThemeBlocks.Proofs.Cms.Nodes

/-! The table of a sync against what was decoded. It has a row for each content node of the data, in
order. A row calls its node as the warnings of the node do, its counts add up to those of the whole
snapshot, and every text of block data that could not be read has a warning of its own. -/

namespace ThemeBlocks.Report

open Cms
open Json (Value lookup?)

/-- The texts of `names` once each, in the order in which they appear first. -/
structure FirstAppearances (names texts : List String) : Prop where
  same : ∀ text, text ∈ texts ↔ text ∈ names
  once : texts.Nodup
  inOrder : texts.Pairwise fun a b => names.idxOf a < names.idxOf b

theorem mem_distinct {text : String} (names : List String) :
    text ∈ distinct names ↔ text ∈ names := by
  induction names with
  | nil => rfl
  | cons name names ih =>
    rw [distinct, List.mem_cons, List.mem_filter, ih, List.mem_cons]
    by_cases h : text = name <;> simp [h]

theorem nodup_distinct (names : List String) : (distinct names).Nodup := by
  induction names with
  | nil => exact .nil
  | cons name names ih =>
    rw [distinct, List.nodup_cons]
    exact ⟨by simp, ih.filter _⟩

theorem pairwise_idxOf_distinct (names : List String) :
    (distinct names).Pairwise fun a b => names.idxOf a < names.idxOf b := by
  induction names with
  | nil => exact .nil
  | cons name names ih =>
    have hlater : ∀ text ∈ (distinct names).filter (· ≠ name),
        (name :: names).idxOf text = names.idxOf text + 1 := by
      intro text htext
      have hne : text ≠ name := by simpa using (List.mem_filter.1 htext).2
      exact List.idxOf_cons_ne _ hne.symm
    rw [distinct, List.pairwise_cons]
    constructor
    · intro text htext
      rw [List.idxOf_cons_self, hlater text htext]
      omega
    · refine (ih.filter _).imp_of_mem fun ha hb hlt => ?_
      rw [hlater _ ha, hlater _ hb]
      omega

theorem firstAppearances_distinct (names : List String) : FirstAppearances names (distinct names) :=
  ⟨fun _ => mem_distinct names, nodup_distinct names, pairwise_idxOf_distinct names⟩

theorem lookup?_withoutKey {key other : String} (h : key ≠ other) (members : List (String × Value)) :
    lookup? key (withoutKey other members) = lookup? key members := by
  induction members with
  | nil => rfl
  | cons member members ih =>
    obtain ⟨k, v⟩ := member
    by_cases hk : k = other
    · subst hk
      rw [withoutKey, List.filter_cons_of_neg (by simp), lookup?, if_neg h.symm]
      exact ih
    · rw [withoutKey, List.filter_cons_of_pos (by simp [hk])]
      change (if k = key then some v else lookup? key (withoutKey other members)) = _
      rw [ih]
      rfl

theorem nodeLabel_withoutKey (members : List (String × Value)) (index : Nat) :
    nodeLabel (withoutKey "editorBlocks" members) index = nodeLabel members index := by
  simp [nodeLabel, List.findSome?_cons, lookup?_withoutKey]

theorem label_keptNode (node : PlacedNode) : (keptNode node.members).label node.index = node.label :=
  nodeLabel_withoutKey node.members node.index

theorem label_of_mem_warnings {node : PlacedNode} {warning : Warning} (h : warning ∈ node.warnings) :
    warning.collection = node.collection ∧ warning.node = node.label := by
  obtain ⟨remark, -, rfl⟩ := List.mem_map.1 h
  exact ⟨rfl, rfl⟩

/-- The warning tells why the text of the block cannot be read. -/
def RawWarned (block : EditorBlock) (warning : Warning) : Prop :=
  warning.block = block.name ∧
    ∃ text, block.data = some (.raw text) ∧ Json.parse text = .error warning.message

theorem exists_itemWarning (node : PlacedNode) {item : Value} (position : Nat) {block : EditorBlock}
    (hkept : kept? item = some block) (hraw : block.isRaw) :
    ∃ warning, [warning].Sublist (node.itemWarnings item position) ∧ RawWarned block warning := by
  have hremarks := remarked_item item position
  unfold Incident.ofItem Incident.ofBlock at hremarks
  simp only [hkept, hraw, if_true, List.singleton_append] at hremarks
  obtain ⟨remark, rest, ⟨hblock, htold⟩, -, hsplit⟩ := List.forall₂_cons_left_iff.1 hremarks
  refine ⟨node.warningOf remark, ?_, hblock, htold⟩
  rw [PlacedNode.itemWarnings, hsplit, List.map_cons]
  exact List.singleton_sublist.2 List.mem_cons_self

theorem exists_rawWarnings_from (node : PlacedNode) (items : List Value) (position : Nat) :
    ∃ own, own.Sublist ((items.zipIdx position).flatMap fun entry =>
        node.itemWarnings entry.1 entry.2) ∧
      List.Forall₂ RawWarned ((items.filterMap kept?).filter EditorBlock.isRaw) own := by
  induction items generalizing position with
  | nil => exact ⟨[], .slnil, .nil⟩
  | cons item items ih =>
    obtain ⟨own, hown, htold⟩ := ih (position + 1)
    rw [List.zipIdx_cons, List.flatMap_cons, List.filterMap_cons]
    cases hkept : kept? item with
    | none => exact ⟨own, hown.trans (List.sublist_append_right _ _), htold⟩
    | some block =>
      simp only [List.filter_cons]
      by_cases hraw : block.isRaw
      · obtain ⟨warning, hwarning, hfirst⟩ := exists_itemWarning node position hkept hraw
        rw [if_pos hraw]
        exact ⟨warning :: own, hwarning.append hown, .cons hfirst htold⟩
      · rw [if_neg hraw]
        exact ⟨own, hown.trans (List.sublist_append_right _ _), htold⟩

theorem exists_rawWarnings (node : PlacedNode) :
    ∃ own, own.Sublist node.warnings ∧
      List.Forall₂ RawWarned (node.blocks.filter EditorBlock.isRaw) own := by
  by_cases h : ∃ items, blocksOf? node.members = some (.array items)
  · obtain ⟨items, hitems⟩ := h
    have hblocks : node.blocks = items.filterMap kept? := by
      rw [PlacedNode.blocks, PlacedNode.items, hitems]
    rw [warnings_of_items node hitems, hblocks]
    exact exists_rawWarnings_from node items 0
  · have hblocks : node.blocks = [] := by
      unfold PlacedNode.blocks PlacedNode.items
      split
      · next items hitems => exact absurd ⟨items, hitems⟩ h
      · rfl
    rw [hblocks]
    exact ⟨[], List.nil_sublist _, .nil⟩

structure RowOf (node : PlacedNode) (row : NodeRow) : Prop where
  collection : row.collection = node.collection
  name : row.node = node.label
  /-- The node is called alike in the row and in whatever was raised for it. -/
  warned : ∀ warning ∈ node.warnings, warning.collection = row.collection ∧ warning.node = row.node
  blocks : row.blocks = node.blocks.length
  raw : row.raw = (node.blocks.filter EditorBlock.isRaw).length
  /-- No two raw blocks share a warning. -/
  rawWarned : ∃ own, own.Sublist node.warnings ∧
    List.Forall₂ RawWarned (node.blocks.filter EditorBlock.isRaw) own
  types : FirstAppearances (node.blocks.map EditorBlock.typeName) row.types

def nodeRow (node : PlacedNode) : NodeRow :=
  NodeRow.ofNode node.collection node.index (keptNode node.members)

theorem rowOf_nodeRow (node : PlacedNode) : RowOf node (nodeRow node) := by
  have hblocks := blocks_keptNode node
  constructor
  · rfl
  · exact label_keptNode node
  · intro warning hwarning
    obtain ⟨hcollection, hnode⟩ := label_of_mem_warnings hwarning
    exact ⟨hcollection, hnode.trans (label_keptNode node).symm⟩
  · exact congrArg List.length hblocks
  · exact congrArg (fun blocks : List EditorBlock => (blocks.filter EditorBlock.isRaw).length) hblocks
  · exact exists_rawWarnings node
  · rw [← hblocks]
    exact firstAppearances_distinct _

section Rows

variable {entries : List (String × Value)} {snapshot : Snapshot}
  (h : snapshot.collections =
    (collectionsOf entries).map fun collection => (collection.1, collection.2.map keptNode))

include h

theorem nodeRows_eq_map_placedNodes : nodeRows snapshot = (placedNodes entries).map nodeRow := by
  rw [nodeRows, h, placedNodes, List.flatMap_map, List.map_flatMap]
  apply List.flatMap_congr
  intro collection _
  change (collection.2.map keptNode).mapIdx (NodeRow.ofNode collection.1) = _
  rw [List.mapIdx_eq_zipIdx_map, placedIn, List.zipIdx_map, List.map_map, List.map_map]
  rfl

theorem sum_blocks_nodeRows : ((nodeRows snapshot).map NodeRow.blocks).sum = snapshot.blockCount := by
  rw [Snapshot.blockCount, blocks_eq_flatMap_placedNodes h, List.length_flatMap,
    nodeRows_eq_map_placedNodes h, List.map_map]
  congr 1
  exact List.map_congr_left fun node _ => (rowOf_nodeRow node).blocks

theorem sum_raw_nodeRows :
    ((nodeRows snapshot).map NodeRow.raw).sum =
      (snapshot.blocks.filter EditorBlock.isRaw).length := by
  rw [blocks_eq_flatMap_placedNodes h, List.filter_flatMap, List.length_flatMap,
    nodeRows_eq_map_placedNodes h, List.map_map]
  congr 1
  exact List.map_congr_left fun node _ => (rowOf_nodeRow node).raw

end Rows

/-- The table has one row for each content node of the data, in order; what it tells of the nodes and
their blocks agrees with the warnings, with the snapshot and with the summary. -/
theorem contentTable_agrees (entries : List (String × Value)) :
    ∃ snapshot warnings, Snapshot.decode (.object entries) = .ok (snapshot, warnings) ∧
      snapshot.nodes.map ContentNode.blocks = (placedNodes entries).map PlacedNode.blocks ∧
      warnings = (placedNodes entries).flatMap PlacedNode.warnings ∧
      ∀ context : Sync.Context, context.snapshot = snapshot → ∃ rows : List NodeRow,
        (contentTable false context).rows = rows.map (fun row =>
          [row.collection, row.node, toString row.blocks, toString row.raw,
            truncate cellLimit (", ".intercalate row.types)]) ∧
        List.Forall₂ RowOf (placedNodes entries) rows ∧
        (rows.map NodeRow.blocks).sum = snapshot.blockCount ∧
        CommandLine.syncSummary snapshot = "Fetched " ++ toString (rows.map NodeRow.blocks).sum ++
          " blocks from " ++ toString snapshot.collections.length ++ " collections" ∧
        (rows.map NodeRow.raw).sum = (snapshot.blocks.filter EditorBlock.isRaw).length := by
  obtain ⟨snapshot, hdecode, hcollections⟩ := decode_eq entries
  refine ⟨snapshot, _, hdecode, map_blocks_nodes hcollections, rfl, ?_⟩
  intro context hcontext
  subst hcontext
  refine ⟨nodeRows context.snapshot, rfl, ?_, sum_blocks_nodeRows hcollections, ?_,
    sum_raw_nodeRows hcollections⟩
  · rw [nodeRows_eq_map_placedNodes hcollections, List.forall₂_map_right_iff, List.forall₂_same]
    intro node _
    exact rowOf_nodeRow node
  · rw [sum_blocks_nodeRows hcollections]
    rfl

end ThemeBlocks.Report

import ThemeBlocks.Proofs.Cms.Accounting

/-! The content nodes of data, in order and each in its place. A snapshot has one node for each of them,
and the warnings are those of the first node, then those of the second, and so on: every warning is
raised for one node, and for a node with a list of blocks also for one item of that list. -/

namespace ThemeBlocks.Cms

open Json

structure PlacedNode where
  collection : String
  index : Nat
  members : List (String × Value)

def placedIn (collection : String) (nodes : List (List (String × Value))) (index : Nat) :
    List PlacedNode :=
  (nodes.zipIdx index).map fun entry => ⟨collection, entry.2, entry.1⟩

def placedNodes (entries : List (String × Value)) : List PlacedNode :=
  (collectionsOf entries).flatMap fun collection => placedIn collection.1 collection.2 0

namespace PlacedNode

def label (node : PlacedNode) : String :=
  nodeLabel node.members node.index

def items (node : PlacedNode) : List Value :=
  match blocksOf? node.members with
  | some (.array items) => items
  | _ => []

def blocks (node : PlacedNode) : List EditorBlock :=
  node.items.filterMap kept?

def warnings (node : PlacedNode) : List Warning :=
  (decodeNode node.collection node.index node.members).2

def warningOf (node : PlacedNode) (remark : Remark) : Warning :=
  ⟨node.collection, node.label, remark.block, remark.message⟩

def itemWarnings (node : PlacedNode) (item : Value) (position : Nat) : List Warning :=
  (remarksOn item position).map node.warningOf

end PlacedNode

theorem decodeElements_eq (collection : String) (nodes : List (List (String × Value))) (index : Nat) :
    decodeElements collection index (nodes.map Value.object) =
      .ok (nodes.map keptNode, (placedIn collection nodes index).flatMap PlacedNode.warnings) := by
  induction nodes generalizing index with
  | nil => rfl
  | cons members nodes ih =>
    have hnode := (decodeNode_accounts collection index members).1
    rw [List.map_cons, decodeElements_object members (ih (index + 1)), hnode]
    rfl

theorem collectionsOf_some {entry : String × Value} {nodes : List (List (String × Value))}
    (h : collectionNodes? entry.2 = some nodes) (entries : List (String × Value)) :
    collectionsOf (entry :: entries) = (entry.1, nodes) :: collectionsOf entries := by
  simp [collectionsOf, h]

theorem collectionsOf_none {entry : String × Value} (h : collectionNodes? entry.2 = none)
    (entries : List (String × Value)) : collectionsOf (entry :: entries) = collectionsOf entries := by
  simp [collectionsOf, h]

theorem placedNodes_some {entry : String × Value} {nodes : List (List (String × Value))}
    (h : collectionNodes? entry.2 = some nodes) (entries : List (String × Value)) :
    placedNodes (entry :: entries) = placedIn entry.1 nodes 0 ++ placedNodes entries := by
  rw [placedNodes, collectionsOf_some h, List.flatMap_cons]
  rfl

/-- Data are decoded to one node for each of theirs, with the warnings of one node after the other. -/
theorem decode_eq (entries : List (String × Value)) :
    ∃ snapshot, Snapshot.decode (.object entries) =
        .ok (snapshot, (placedNodes entries).flatMap PlacedNode.warnings) ∧
      snapshot.collections =
        (collectionsOf entries).map fun collection => (collection.1, collection.2.map keptNode) := by
  change ∃ snapshot, Snapshot.decodeEntries entries = _ ∧ _
  induction entries with
  | nil => exact ⟨_, rfl, rfl⟩
  | cons entry entries ih =>
    obtain ⟨key, value⟩ := entry
    obtain ⟨snapshot, hdecode, hcollections⟩ := ih
    cases hvalue : collectionNodes? value with
    | none =>
      rw [placedNodes, collectionsOf_none hvalue]
      exact ⟨_, Snapshot.decodeEntries_other hvalue hdecode, hcollections⟩
    | some nodes =>
      have hnodes := decodeElements_eq key nodes 0
      rw [placedNodes_some hvalue, collectionsOf_some hvalue, List.flatMap_append, List.map_cons]
      exact ⟨_, Snapshot.decodeEntries_collection hvalue hnodes hdecode,
        congrArg (List.cons _) hcollections⟩

theorem map_members_placedIn (collection : String) (nodes : List (List (String × Value)))
    (index : Nat) : (placedIn collection nodes index).map PlacedNode.members = nodes := by
  rw [placedIn, List.map_map]
  exact List.zipIdx_map_fst index nodes

theorem blocks_keptNode (node : PlacedNode) : (keptNode node.members).blocks = node.blocks := by
  unfold PlacedNode.blocks PlacedNode.items ContentNode.blocks keptNode keptBlocks
  cases blocksOf? node.members with
  | none => rfl
  | some value => cases value <;> rfl

section Snapshot

variable {entries : List (String × Value)} {snapshot : Snapshot}
  (h : snapshot.collections =
    (collectionsOf entries).map fun collection => (collection.1, collection.2.map keptNode))

include h

theorem nodes_eq_map_placedNodes :
    snapshot.nodes = (placedNodes entries).map fun node => keptNode node.members := by
  rw [Snapshot.nodes, h, placedNodes, List.flatMap_map, List.map_flatMap]
  apply List.flatMap_congr
  intro collection _
  change collection.2.map keptNode = _
  conv_lhs => rw [← map_members_placedIn collection.1 collection.2 0, List.map_map]
  rfl

theorem map_blocks_nodes :
    snapshot.nodes.map ContentNode.blocks = (placedNodes entries).map PlacedNode.blocks := by
  rw [nodes_eq_map_placedNodes h, List.map_map]
  exact List.map_congr_left fun node _ => blocks_keptNode node

theorem blocks_eq_flatMap_placedNodes :
    snapshot.blocks = (placedNodes entries).flatMap PlacedNode.blocks := by
  rw [Snapshot.blocks, nodes_eq_map_placedNodes h, List.flatMap_map]
  simp only [blocks_keptNode]

end Snapshot

theorem decodeItems_snd (items : List Value) (position : Nat) :
    (decodeItems position items).2 =
      (items.zipIdx position).flatMap fun entry => remarksOn entry.1 entry.2 := by
  induction items generalizing position with
  | nil => rfl
  | cons item items ih => rw [decodeItems_cons, List.zipIdx_cons, List.flatMap_cons, ih (position + 1)]

theorem warnings_of_items (node : PlacedNode) {items : List Value}
    (h : blocksOf? node.members = some (.array items)) :
    node.warnings = items.zipIdx.flatMap fun entry => node.itemWarnings entry.1 entry.2 := by
  have hremarks : (decodeBlocks (blocksOf? node.members)).2 =
      items.zipIdx.flatMap fun entry => remarksOn entry.1 entry.2 := by
    rw [h]
    exact decodeItems_snd items 0
  change (decodeBlocks (blocksOf? node.members)).2.map node.warningOf = _
  rw [hremarks, List.map_flatMap]
  rfl

end ThemeBlocks.Cms

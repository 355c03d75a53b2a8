import ThemeBlocks.Proofs.Cms.Nodes
import ThemeBlocks.Proofs.Cms.Silence

/-! Items of a block list that are no objects. All of them are left out, with one warning each, but for
one kind: a list of at most four items is taken for a block if the first two can be texts and the third
a number. The empty list is one of these, so that a block comes out of nothing. -/

namespace ThemeBlocks.Cms

open Json

def MayBeText (value : Option Value) : Prop :=
  value = none ∨ value = some .null ∨ ∃ text, value = some (.string text)

def MayBeInteger (value : Option Value) : Prop :=
  value = none ∨ value = some .null ∨
    ∃ n, value = some (.number (.int n)) ∧ WordRange.signed64.contains n

theorem exists_optionalText_iff {value : Option Value} :
    (∃ text, optionalText value = .ok text) ↔ MayBeText value := by
  unfold optionalText MayBeText
  split <;> simp_all

theorem exists_optionalInteger_iff {value : Option Value} :
    (∃ n, optionalInteger value = .ok n) ↔ MayBeInteger value := by
  unfold optionalInteger MayBeInteger
  split
  · simp
  · simp
  · next n => by_cases h : WordRange.signed64.contains n <;> simp [h]
  · simp_all

/-- The items can be the type name, the name, the version and the attributes of a block. -/
structure FitsInOrder (items : List Value) : Prop where
  typeName : MayBeText items[0]?
  name : MayBeText items[1]?
  apiVersion : MayBeInteger items[2]?
  length : items.length ≤ 4

theorem exists_ofJson_array_iff {items : List Value} :
    (∃ block, ReceivedBlock.ofJson (.array items) = .ok block) ↔ FitsInOrder items := by
  constructor
  · intro h
    obtain ⟨block, h⟩ := h
    obtain ⟨typeName, htype, h⟩ := exists_ok_of_bind h
    obtain ⟨name, hname, h⟩ := exists_ok_of_bind h
    obtain ⟨apiVersion, hversion, h⟩ := exists_ok_of_bind h
    have hlength : ¬ 4 < items.length := by
      intro hlong
      rw [if_pos hlong] at h
      cases h
    exact ⟨exists_optionalText_iff.1 ⟨typeName, htype⟩, exists_optionalText_iff.1 ⟨name, hname⟩,
      exists_optionalInteger_iff.1 ⟨apiVersion, hversion⟩, by omega⟩
  · intro h
    obtain ⟨typeName, htype⟩ := exists_optionalText_iff.2 h.typeName
    obtain ⟨name, hname⟩ := exists_optionalText_iff.2 h.name
    obtain ⟨apiVersion, hversion⟩ := exists_optionalInteger_iff.2 h.apiVersion
    refine ⟨⟨typeName, name, apiVersion, present items[3]?⟩, ?_⟩
    have hlength : ¬ 4 < items.length := Nat.not_lt.2 h.length
    change (optionalText items[0]? >>= _) = _
    rw [bind_of_ok htype, bind_of_ok hname, bind_of_ok hversion]
    exact if_neg hlength

/-- A list that is taken for a block. -/
def IsBlockList (item : Value) : Prop :=
  ∃ items, item = .array items ∧ FitsInOrder items

theorem isSome_kept?_iff {item : Value} :
    (kept? item).isSome ↔ ∃ block, ReceivedBlock.ofJson item = .ok block := by
  unfold kept? EditorBlock.decode
  cases ReceivedBlock.ofJson item <;> simp

theorem isSome_kept?_iff_isBlockList {item : Value} (h : item.isObject = false) :
    (kept? item).isSome ↔ IsBlockList item := by
  rw [isSome_kept?_iff]
  cases item with
  | object members => cases h
  | array items => simp [exists_ofJson_array_iff, IsBlockList]
  | null => simp [ReceivedBlock.ofJson, IsBlockList]
  | bool value => simp [ReceivedBlock.ofJson, IsBlockList]
  | number value => simp [ReceivedBlock.ofJson, IsBlockList]
  | string value => simp [ReceivedBlock.ofJson, IsBlockList]

theorem exists_remark_of_dropped {item : Value} (h : kept? item = none) (position : Nat) :
    ∃ remark, remarksOn item position = [remark] := by
  unfold kept? at h
  unfold remarksOn
  cases hdecode : EditorBlock.decode item with
  | kept block problem =>
    rw [hdecode] at h
    cases h
  | dropped name problem => exact ⟨_, rfl⟩

/-- The item is no block of the node, and one warning is raised for it. -/
def LeftOut (node : PlacedNode) (item : Value) (position : Nat) : Prop :=
  kept? item = none ∧ ∃ warning, node.itemWarnings item position = [warning]

theorem leftOut_iff {node : PlacedNode} {item : Value} {position : Nat} (h : item.isObject = false) :
    LeftOut node item position ↔ ¬ IsBlockList item := by
  rw [← isSome_kept?_iff_isBlockList h, Option.not_isSome_iff_eq_none]
  constructor
  · intro hleft
    exact hleft.1
  · intro hkept
    obtain ⟨remark, hremark⟩ := exists_remark_of_dropped hkept position
    exact ⟨hkept, node.warningOf remark, by rw [PlacedNode.itemWarnings, hremark, List.map_singleton]⟩

/-- Whatever is no object is left out with one warning, and every block that is kept is an object. -/
structure ObjectsOnly (node : PlacedNode) : Prop where
  leftOut : ∀ position item, node.items[position]? = some item → item.isObject = false →
    LeftOut node item position
  stems : ∀ item ∈ node.items, (kept? item).isSome → item.isObject

theorem objectsOnly_node_iff {node : PlacedNode} :
    ObjectsOnly node ↔ ∀ item ∈ node.items, ¬ IsBlockList item := by
  constructor
  · intro h item hitem hlist
    obtain ⟨items, rfl, hfits⟩ := hlist
    have hkept : (kept? (.array items)).isSome := isSome_kept?_iff.2 (exists_ofJson_array_iff.2 hfits)
    cases h.stems _ hitem hkept
  · intro h
    constructor
    · intro position item hposition hstray
      exact (leftOut_iff hstray).2 (h item (List.mem_of_getElem? hposition))
    · intro item hitem hkept
      by_contra hstray
      exact h item hitem ((isSome_kept?_iff_isBlockList (by simpa using hstray)).1 hkept)

/-- The blocks of a node are what is kept of its items, and its warnings are those of its items. Items
that are no objects are left out, each with one warning, exactly if they cannot be taken for a block. -/
theorem objectsOnly_iff (entries : List (String × Value)) :
    ∃ snapshot warnings, Snapshot.decode (.object entries) = .ok (snapshot, warnings) ∧
      snapshot.nodes.map ContentNode.blocks =
        (placedNodes entries).map (fun node => node.items.filterMap kept?) ∧
      warnings = (placedNodes entries).flatMap PlacedNode.warnings ∧
      (∀ node ∈ placedNodes entries, ∀ items, blocksOf? node.members = some (.array items) →
        node.items = items ∧
          node.warnings = items.zipIdx.flatMap fun entry => node.itemWarnings entry.1 entry.2) ∧
      (∀ node ∈ placedNodes entries, ∀ position item, node.items[position]? = some item →
        item.isObject = false → (LeftOut node item position ↔ ¬ IsBlockList item)) ∧
      ((∀ node ∈ placedNodes entries, ObjectsOnly node) ↔
        ∀ node ∈ placedNodes entries, ∀ item ∈ node.items, ¬ IsBlockList item) := by
  obtain ⟨snapshot, hdecode, hcollections⟩ := decode_eq entries
  refine ⟨snapshot, _, hdecode, map_blocks_nodes hcollections, rfl, ?_, ?_, ?_⟩
  · intro node _ items hitems
    exact ⟨by rw [PlacedNode.items, hitems], warnings_of_items node hitems⟩
  · intro node _ position item _ hstray
    exact leftOut_iff hstray
  · exact forall₂_congr fun node _ => objectsOnly_node_iff

def emptyListPage : List (String × Value) :=
  pagesOf [.object [("editorBlocks", .array [.array []]), ("slug", .string "home")]]

/-- The empty list is a block without a name, and nothing warns of that. -/
theorem emptyList_kept :
    Snapshot.decode (.object emptyListPage) =
        .ok (⟨[("pages", [⟨some [⟨"", "", none, none⟩], [("slug", .string "home")]⟩])], []⟩, []) ∧
      ¬ ∀ node ∈ placedNodes emptyListPage, ObjectsOnly node := by
  refine ⟨rfl, ?_⟩
  intro h
  have hnode := h ⟨"pages", 0, _⟩ List.mem_cons_self
  cases hnode.stems (.array []) List.mem_cons_self rfl

end ThemeBlocks.Cms

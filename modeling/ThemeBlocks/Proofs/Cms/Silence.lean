import Mathlib.Data.List.Nodup
import ThemeBlocks.Proofs.Cms.Entries

/-! What the absence of warnings tells. Nothing that counts was left out and every text of block data was
decoded, but for the entries that were never looked at: one element that is no object keeps a whole
list of nodes from being a collection, and no warning says so. -/

namespace ThemeBlocks.Cms

open Json

def HasDataText (item : Value) (text : String) : Prop :=
  ∃ members attributes, item = .object members ∧
    lookup? "attributes" members = some (.object attributes) ∧
    lookup? "data" attributes = some (.string text)

/-- The item stands in the node as a block, with the value that its text reads as. -/
def ItemDecoded (node : ContentNode) (item : Value) (text : String) : Prop :=
  ∃ block value, kept? item = some block ∧ block ∈ node.blocks ∧ parse text = .ok value ∧
    block.data = some (.decoded value)

/-- Every element of a top-level list of nodes that is an object with a list of blocks is a node of its
collection, and every text of block data in it is decoded. -/
def Complete (entries : List (String × Value)) (snapshot : Snapshot) : Prop :=
  ∀ entry ∈ entries, ∀ elements, entry.2.member? "nodes" = some (.array elements) →
    ∀ members items, .object members ∈ elements → blocksOf? members = some (.array items) →
      ∃ node ∈ snapshot.collection entry.1, node.fields = withoutKey "editorBlocks" members ∧
        ∀ item ∈ items, ∀ text, HasDataText item text → ItemDecoded node item text

/-- The list has an object with a list of blocks, and an element that is no object. -/
def Mixed (elements : List Value) : Prop :=
  (∃ members items, .object members ∈ elements ∧ blocksOf? members = some (.array items)) ∧
    ∃ element ∈ elements, element.isObject = false

theorem attributes_of_hasDataText {item : Value} {text : String} {received : ReceivedBlock}
    (htext : HasDataText item text) (hreceived : ReceivedBlock.ofJson item = .ok received) :
    ∃ attributes, received.attributes = some (.object attributes) ∧
      lookup? "data" attributes = some (.string text) := by
  obtain ⟨members, attributes, rfl, hattributes, hdata⟩ := htext
  have hpresent := attributes_ofJson hreceived
  rw [attributesOf?, hattributes] at hpresent
  exact ⟨attributes, hpresent, hdata⟩

theorem decoded_of_kept {item : Value} {text : String} {block : EditorBlock}
    (htext : HasDataText item text) (hkept : kept? item = some block) (hraw : block.isRaw = false) :
    ∃ value, parse text = .ok value ∧ block.data = some (.decoded value) := by
  unfold kept? EditorBlock.decode at hkept
  cases hreceived : ReceivedBlock.ofJson item with
  | error cause =>
    rw [hreceived] at hkept
    cases hkept
  | ok received =>
    rw [hreceived] at hkept
    cases hkept
    obtain ⟨attributes, hattributes, hdata⟩ := attributes_of_hasDataText htext hreceived
    change received.payload.1.any Payload.isRaw = false at hraw
    change ∃ value, _ ∧ received.payload.1 = _
    unfold ReceivedBlock.payload at hraw ⊢
    rw [hattributes] at hraw ⊢
    simp only [hdata] at hraw ⊢
    cases hparse : parse text with
    | ok value => exact ⟨value, rfl, rfl⟩
    | error message =>
      rw [hparse] at hraw
      cases hraw

section Silence

variable {entries : List (String × Value)} {snapshot : Snapshot}

theorem collections_of_silent (hsilent : Snapshot.decode (.object entries) = .ok (snapshot, [])) :
    snapshot.collections =
        (collectionsOf entries).map (fun collection => (collection.1, collection.2.map keptNode)) ∧
      incidentsOf entries = [] := by
  obtain ⟨decoded, warnings, hdecode, hcollections, -, hwarnings⟩ := decodeEntries_accounts entries
  change Snapshot.decodeEntries entries = _ at hsilent
  rw [hdecode] at hsilent
  cases hsilent
  exact ⟨hcollections, List.forall₂_nil_right_iff.1 hwarnings⟩

theorem nodup_collectionKeys (hkeys : (entries.map (·.1)).Nodup) :
    ((collectionsOf entries).map (·.1)).Nodup := by
  refine hkeys.sublist ?_
  induction entries with
  | nil => exact List.Sublist.slnil
  | cons entry entries ih =>
    have hrest := ih (List.nodup_cons.1 hkeys).2
    rw [collectionsOf, List.filterMap_cons, List.map_cons]
    cases collectionNodes? entry.2 with
    | none => exact hrest.cons _
    | some nodes => exact hrest.cons_cons _

theorem mem_collectionsOf_iff {key : String} {nodes : List (List (String × Value))} :
    (key, nodes) ∈ collectionsOf entries ↔
      ∃ entry ∈ entries, entry.1 = key ∧ collectionNodes? entry.2 = some nodes := by
  unfold collectionsOf
  rw [List.mem_filterMap]
  refine exists_congr fun entry => and_congr_right fun _ => ?_
  simp [and_comm]

section Collection

variable (hkeys : (entries.map (·.1)).Nodup)
  (hcollections : snapshot.collections =
    (collectionsOf entries).map fun collection => (collection.1, collection.2.map keptNode))
  {entry : String × Value} (hentry : entry ∈ entries)

include hkeys hcollections hentry

theorem collection_of_some {nodes : List (List (String × Value))}
    (hnodes : collectionNodes? entry.2 = some nodes) :
    snapshot.collection entry.1 = nodes.map keptNode := by
  have hmem : (entry.1, nodes) ∈ collectionsOf entries :=
    mem_collectionsOf_iff.2 ⟨entry, hentry, rfl, hnodes⟩
  have hkept : (entry.1, nodes.map keptNode) ∈ snapshot.collections := by
    rw [hcollections]
    exact List.mem_map_of_mem hmem
  have hdistinct : (snapshot.collections.map (·.1)).Nodup := by
    rw [hcollections, List.map_map]
    exact nodup_collectionKeys hkeys
  rw [Snapshot.collection, lookup?_of_mem hdistinct hkept]
  rfl

theorem collection_of_none (hnodes : collectionNodes? entry.2 = none) :
    snapshot.collection entry.1 = [] := by
  have habsent : entry.1 ∉ snapshot.collections.map (·.1) := by
    rw [hcollections, List.map_map]
    intro hmem
    obtain ⟨⟨key, nodes⟩, hcollection, hkey⟩ := List.mem_map.1 hmem
    obtain ⟨other, hother, hotherKey, hothers⟩ := mem_collectionsOf_iff.1 hcollection
    -- The keys differ, so the collection would come of this very entry.
    have hsame := List.inj_on_of_nodup_map hkeys hother hentry (hotherKey.trans hkey)
    rw [hsame, hnodes] at hothers
    cases hothers
  rw [Snapshot.collection, lookup?_eq_none_iff.2 habsent]
  rfl

end Collection

theorem itemDecoded_of_silent {members : List (String × Value)} {items : List Value}
    (hitems : blocksOf? members = some (.array items)) (hsilent : Incident.ofNode members = [])
    {item : Value} (hitem : item ∈ items) {text : String} (htext : HasDataText item text) :
    ItemDecoded (keptNode members) item text := by
  obtain ⟨block, hkept, hraw⟩ := exists_of_ofNode_eq_nil hitems hsilent hitem
  obtain ⟨value, hparse, hdata⟩ := decoded_of_kept htext hkept hraw
  have hblock : block ∈ (keptNode members).blocks := by
    simp only [keptNode, keptBlocks, hitems, ContentNode.blocks, Option.getD_some]
    exact List.mem_filterMap.2 ⟨item, hitem, hkept⟩
  exact ⟨block, value, hkept, hblock, hparse, hdata⟩

/-- Without warnings everything is there, except where a list of nodes is mixed; and there it is not. -/
theorem complete_iff_of_silent (hkeys : (entries.map (·.1)).Nodup)
    (hsilent : Snapshot.decode (.object entries) = .ok (snapshot, [])) :
    Complete entries snapshot ↔ ∀ entry ∈ entries, ∀ elements,
      entry.2.member? "nodes" = some (.array elements) → ¬ Mixed elements := by
  obtain ⟨hcollections, hincidents⟩ := collections_of_silent hsilent
  constructor
  · rintro hcomplete entry hentry elements helements ⟨⟨members, items, hmembers, hitems⟩, odd, hodd, hno⟩
    have hnone : collectionNodes? entry.2 = none := by
      cases hnodes : collectionNodes? entry.2 with
      | none => rfl
      | some nodes =>
        have hall := collectionNodes?_eq_some_iff.1 hnodes
        rw [helements] at hall
        cases hall
        obtain ⟨other, -, rfl⟩ := List.mem_map.1 hodd
        cases hno
    obtain ⟨node, hnode, -⟩ := hcomplete entry hentry elements helements members items hmembers hitems
    rw [collection_of_none hkeys hcollections hentry hnone] at hnode
    cases hnode
  · intro hpure entry hentry elements helements members items hmembers hitems
    have hobjects : ∀ element ∈ elements, element.isObject := by
      intro element helement
      by_contra hno
      have hmixed : Mixed elements :=
        ⟨⟨members, items, hmembers, hitems⟩, element, helement, by simpa using hno⟩
      exact hpure entry hentry elements helements hmixed
    obtain ⟨nodes, rfl⟩ := exists_map_object_iff.2 hobjects
    have hnodes : collectionNodes? entry.2 = some nodes := collectionNodes?_eq_some_iff.2 helements
    obtain ⟨same, hsame, hobject⟩ := List.mem_map.1 hmembers
    cases hobject
    have hcollection : (entry.1, nodes) ∈ collectionsOf entries :=
      mem_collectionsOf_iff.2 ⟨entry, hentry, rfl, hnodes⟩
    have hquiet := ofNode_eq_nil_of_incidentsOf hincidents hcollection hsame
    refine ⟨keptNode members, ?_, rfl, fun item hitem text htext => ?_⟩
    · rw [collection_of_some hkeys hcollections hentry hnodes]
      exact List.mem_map_of_mem hsame
    · exact itemDecoded_of_silent hitems hquiet hitem htext

end Silence

def heroPage : Value :=
  .object [
    ("editorBlocks", .array [.object [
      ("__typename", .string "AcfHero"),
      ("attributes", .object [("data", .string "[1]")]),
      ("name", .string "acf/hero")]]),
    ("slug", .string "home")]

def pagesOf (elements : List Value) : List (String × Value) :=
  [("pages", .object [("nodes", .array elements)])]

def heroNode : ContentNode :=
  ⟨some [⟨"AcfHero", "acf/hero", none, some (.decoded (.array [.number (.int 1)]))⟩],
    [("slug", .string "home")]⟩

theorem complete_iff_of_silent_hero :
    ((pagesOf [heroPage]).map (·.1)).Nodup ∧
      Snapshot.decode (.object (pagesOf [heroPage])) = .ok (⟨[("pages", [heroNode])], []⟩, []) ∧
      Complete (pagesOf [heroPage]) ⟨[("pages", [heroNode])], []⟩ := by
  have hkeys : ((pagesOf [heroPage]).map (·.1)).Nodup := by decide
  have hsilent : Snapshot.decode (.object (pagesOf [heroPage])) =
      .ok (⟨[("pages", [heroNode])], []⟩, []) := by
    rfl
  refine ⟨hkeys, hsilent, (complete_iff_of_silent hkeys hsilent).2 ?_⟩
  rintro entry hentry elements helements ⟨-, odd, hodd, hno⟩
  obtain rfl := List.mem_singleton.1 hentry
  cases helements
  obtain rfl := List.mem_singleton.1 hodd
  cases hno

/-- One null beside a page, and the page is no node; nothing warns of that. -/
theorem mixedPages_incomplete :
    Snapshot.decode (.object (pagesOf [heroPage, .null])) = .ok (⟨[], pagesOf [heroPage, .null]⟩, []) ∧
      ¬ Complete (pagesOf [heroPage, .null]) ⟨[], pagesOf [heroPage, .null]⟩ := by
  refine ⟨rfl, fun hcomplete => ?_⟩
  obtain ⟨node, hnode, -⟩ := hcomplete _ (List.mem_singleton_self _) _ rfl _ _ List.mem_cons_self rfl
  cases hnode

end ThemeBlocks.Cms

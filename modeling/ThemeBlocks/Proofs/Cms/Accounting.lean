import Mathlib.Data.List.Forall2
import ThemeBlocks.Proofs.Cms.Collections

/-! An account of the blocks of a snapshot. Every item of a block list is kept or dropped, and what is
remarkable about items and lists is set down as incidents, read off the data alone. The warnings of a
snapshot are one for each incident, in the order of the data. -/

namespace ThemeBlocks.Cms

open Json

def kept? (item : Value) : Option EditorBlock :=
  match EditorBlock.decode item with
  | .kept block _ => some block
  | .dropped .. => none

def EditorBlock.isRaw (block : EditorBlock) : Bool :=
  block.data.any Payload.isRaw

/-- The attributes of an object are under their key, those of a list in the fourth place. -/
def attributesOf? : Value → Option Value
  | .object members => lookup? "attributes" members
  | .array items => items[3]?
  | _ => none

def strayAttributes? (item : Value) : Option Value :=
  match attributesOf? item with
  | none | some .null | some (.object _) => none
  | some value => some value

def blocksOf? (members : List (String × Value)) : Option Value :=
  lookup? "editorBlocks" members

def strayBlocks? (members : List (String × Value)) : Option Value :=
  match blocksOf? members with
  | none | some .null | some (.array _) => none
  | some value => some value

inductive Incident
  | dropped (position : Nat) (item : Value)
  | raw (block : EditorBlock)
  | strayAttributes (block : EditorBlock) (value : Value)
  | strayBlocks (value : Value)

namespace Incident

/-- What the block is called: by its name, or by its position where it has none that can be read. -/
def block : Incident → String
  | .dropped position item => ((item.member? "name").bind Value.text?).getD ("#" ++ toString position)
  | .raw block | .strayAttributes block _ => block.name
  | .strayBlocks _ => ""

/-- The message that tells of the incident. -/
def Told (message : String) : Incident → Prop
  | .dropped _ item => ∃ cause, ReceivedBlock.ofJson item = .error cause ∧
      message = "unusable editor block: " ++ cause.text
  | .raw block => ∃ text, block.data = some (.raw text) ∧ parse text = .error message
  | .strayAttributes _ value => message = "attributes is not an object: " ++ value.compact
  | .strayBlocks value => message = "editorBlocks is not a list: " ++ value.compact

def ofBlock (item : Value) (block : EditorBlock) : List Incident :=
  (if block.isRaw then [.raw block] else []) ++
    ((strayAttributes? item).map (.strayAttributes block)).toList

def ofItem (item : Value) (position : Nat) : List Incident :=
  match kept? item with
  | none => [.dropped position item]
  | some block => ofBlock item block

def ofNode (members : List (String × Value)) : List Incident :=
  match blocksOf? members with
  | some (.array items) => items.zipIdx.flatMap fun entry => ofItem entry.1 entry.2
  | _ => ((strayBlocks? members).map .strayBlocks).toList

end Incident

def Remarked (incident : Incident) (remark : Remark) : Prop :=
  remark.block = incident.block ∧ incident.Told remark.message

theorem attributes_ofJson {item : Value} {block : ReceivedBlock}
    (h : ReceivedBlock.ofJson item = .ok block) : block.attributes = present (attributesOf? item) := by
  cases item with
  | object members =>
    obtain ⟨typeName, -, h⟩ := exists_ok_of_bind h
    obtain ⟨apiVersion, -, h⟩ := exists_ok_of_bind h
    obtain ⟨name, -, h⟩ := exists_ok_of_bind h
    cases h
    rfl
  | array items =>
    obtain ⟨typeName, -, h⟩ := exists_ok_of_bind h
    obtain ⟨name, -, h⟩ := exists_ok_of_bind h
    obtain ⟨apiVersion, -, h⟩ := exists_ok_of_bind h
    split at h
    · cases h
    · cases h
      rfl
  | null => cases h
  | bool value => cases h
  | number value => cases h
  | string value => cases h

section Payload

variable {item : Value} {received : ReceivedBlock} (h : ReceivedBlock.ofJson item = .ok received)

include h

theorem payload_of_stray {value : Value} (hstray : strayAttributes? item = some value) :
    received.payload = (none, some ("attributes is not an object: " ++ value.compact)) := by
  have hattributes := attributes_ofJson h
  unfold strayAttributes? at hstray
  split at hstray
  · cases hstray
  · cases hstray
  · cases hstray
  · next given hnull hobject hgiven =>
    cases hstray
    have hpresent : received.attributes = some value := by
      rw [hattributes, hgiven]
      unfold present
      split
      · simp_all
      · rfl
    unfold ReceivedBlock.payload
    rw [hpresent]
    split
    · next hnone => cases hnone
    · next members hsome =>
      cases hsome
      exact absurd rfl (hobject members)
    · next hsome =>
      cases hsome
      rfl

theorem payload_of_fitting (hstray : strayAttributes? item = none) :
    (received.payload.1.any Payload.isRaw = false ∧ received.payload.2 = none) ∨
      ∃ text message, received.payload = (some (.raw text), some message) ∧
        parse text = .error message := by
  have hattributes := attributes_ofJson h
  have hfit : received.attributes = none ∨ ∃ members, received.attributes = some (.object members) := by
    unfold strayAttributes? at hstray
    split at hstray <;> simp_all [present]
  rcases hfit with hnone | ⟨members, hobject⟩
  · simp [ReceivedBlock.payload, hnone]
  · unfold ReceivedBlock.payload
    rw [hobject]
    simp only
    split
    · simp
    · simp
    · next text _ =>
      cases hparse : parse text with
      | ok value => simp [Payload.isRaw]
      | error message => exact .inr ⟨text, message, rfl, hparse⟩
    · simp [Payload.isRaw]

theorem remarked_problem {block : EditorBlock} (hdata : block.data = received.payload.1) :
    List.Forall₂ Remarked (Incident.ofBlock item block)
      (received.payload.2.map (Remark.mk block.name)).toList := by
  rw [Incident.ofBlock, EditorBlock.isRaw, hdata]
  cases hstray : strayAttributes? item with
  | some value =>
    rw [payload_of_stray h hstray]
    exact .cons ⟨rfl, rfl⟩ .nil
  | none =>
    rcases payload_of_fitting h hstray with ⟨hraw, hproblem⟩ | ⟨text, message, hpayload, hparse⟩
    · simp [hraw, hproblem]
    · rw [hpayload] at hdata ⊢
      exact .cons ⟨rfl, text, hdata, hparse⟩ .nil

end Payload

def remarksOn (item : Value) (position : Nat) : List Remark :=
  match EditorBlock.decode item with
  | .kept block problem => (problem.map (Remark.mk block.name)).toList
  | .dropped name problem => [⟨name.getD ("#" ++ toString position), problem⟩]

theorem remarked_item (item : Value) (position : Nat) :
    List.Forall₂ Remarked (Incident.ofItem item position) (remarksOn item position) := by
  unfold Incident.ofItem remarksOn kept? EditorBlock.decode
  cases h : ReceivedBlock.ofJson item with
  | error cause => exact .cons ⟨rfl, cause, h, rfl⟩ .nil
  | ok received => exact remarked_problem h rfl

theorem decodeItems_cons (position : Nat) (item : Value) (items : List Value) :
    decodeItems position (item :: items) =
      ((kept? item).toList ++ (decodeItems (position + 1) items).1,
        remarksOn item position ++ (decodeItems (position + 1) items).2) := by
  rw [decodeItems]
  unfold kept? remarksOn
  cases EditorBlock.decode item with
  | kept block problem => cases problem <;> rfl
  | dropped name problem => rfl

theorem decodeItems_accounts (items : List Value) (position : Nat) :
    (decodeItems position items).1 = items.filterMap kept? ∧
      List.Forall₂ Remarked
        ((items.zipIdx position).flatMap fun entry => Incident.ofItem entry.1 entry.2)
        (decodeItems position items).2 := by
  induction items generalizing position with
  | nil => exact ⟨rfl, .nil⟩
  | cons item items ih =>
    obtain ⟨hblocks, hremarks⟩ := ih (position + 1)
    rw [decodeItems_cons, List.zipIdx_cons, List.flatMap_cons]
    refine ⟨?_, List.rel_append (remarked_item item position) hremarks⟩
    rw [hblocks, List.filterMap_cons]
    cases kept? item <;> rfl

def keptBlocks (members : List (String × Value)) : Option (List EditorBlock) :=
  match blocksOf? members with
  | some (.array items) => some (items.filterMap kept?)
  | _ => none

theorem decodeBlocks_accounts (members : List (String × Value)) :
    (decodeBlocks (blocksOf? members)).1 = keptBlocks members ∧
      List.Forall₂ Remarked (Incident.ofNode members) (decodeBlocks (blocksOf? members)).2 := by
  unfold keptBlocks Incident.ofNode strayBlocks?
  cases blocksOf? members with
  | none => exact ⟨rfl, .nil⟩
  | some value =>
    cases value with
    | null => exact ⟨rfl, .nil⟩
    | array items =>
      obtain ⟨hblocks, hremarks⟩ := decodeItems_accounts items 0
      exact ⟨congrArg some hblocks, hremarks⟩
    | bool value => exact ⟨rfl, .cons ⟨rfl, rfl⟩ .nil⟩
    | number value => exact ⟨rfl, .cons ⟨rfl, rfl⟩ .nil⟩
    | string value => exact ⟨rfl, .cons ⟨rfl, rfl⟩ .nil⟩
    | object inner => exact ⟨rfl, .cons ⟨rfl, rfl⟩ .nil⟩

structure Located where
  collection : String
  node : String
  incident : Incident

def Reports (located : Located) (warning : Warning) : Prop :=
  warning.collection = located.collection ∧ warning.node = located.node ∧
    warning.block = located.incident.block ∧ located.incident.Told warning.message

def keptNode (members : List (String × Value)) : ContentNode :=
  ⟨keptBlocks members, withoutKey "editorBlocks" members⟩

def locatedInNode (collection : String) (index : Nat) (members : List (String × Value)) :
    List Located :=
  (Incident.ofNode members).map fun incident => ⟨collection, nodeLabel members index, incident⟩

theorem decodeNode_accounts (collection : String) (index : Nat) (members : List (String × Value)) :
    (decodeNode collection index members).1 = keptNode members ∧
      List.Forall₂ Reports (locatedInNode collection index members)
        (decodeNode collection index members).2 := by
  obtain ⟨hblocks, hremarks⟩ := decodeBlocks_accounts members
  refine ⟨congrArg (ContentNode.mk · _) hblocks, ?_⟩
  change List.Forall₂ Reports (List.map _ _) (List.map _ _)
  rw [List.forall₂_map_left_iff, List.forall₂_map_right_iff]
  exact hremarks.imp fun incident remark h => ⟨rfl, rfl, h.1, h.2⟩

theorem decodeElements_accounts (collection : String) (index : Nat)
    (nodes : List (List (String × Value))) :
    ∃ warnings, decodeElements collection index (nodes.map Value.object) =
        .ok (nodes.map keptNode, warnings) ∧
      List.Forall₂ Reports
        ((nodes.zipIdx index).flatMap fun entry => locatedInNode collection entry.2 entry.1)
        warnings := by
  induction nodes generalizing index with
  | nil => exact ⟨[], rfl, .nil⟩
  | cons members nodes ih =>
    obtain ⟨hnode, hwarnings⟩ := decodeNode_accounts collection index members
    obtain ⟨more, hnodes, hmore⟩ := ih (index + 1)
    refine ⟨_, ?_, List.rel_append hwarnings hmore⟩
    rw [List.map_cons, List.map_cons, decodeElements_object members hnodes, hnode]

def collectionsOf (entries : List (String × Value)) : List (String × List (List (String × Value))) :=
  entries.filterMap fun entry => (collectionNodes? entry.2).map fun nodes => (entry.1, nodes)

/-- Everything that there is to warn about, by collection, node and item. -/
def incidentsOf (entries : List (String × Value)) : List Located :=
  (collectionsOf entries).flatMap fun collection =>
    collection.2.zipIdx.flatMap fun entry => locatedInNode collection.1 entry.2 entry.1

theorem decodeEntries_accounts (entries : List (String × Value)) :
    ∃ snapshot warnings, Snapshot.decodeEntries entries = .ok (snapshot, warnings) ∧
      snapshot.collections =
        (collectionsOf entries).map (fun collection => (collection.1, collection.2.map keptNode)) ∧
      snapshot.other = entries.filter (fun entry => (collectionNodes? entry.2).isNone) ∧
      List.Forall₂ Reports (incidentsOf entries) warnings := by
  induction entries with
  | nil => exact ⟨_, _, rfl, rfl, rfl, .nil⟩
  | cons entry entries ih =>
    obtain ⟨key, value⟩ := entry
    obtain ⟨snapshot, more, hdecode, hcollections, hother, hmore⟩ := ih
    rw [incidentsOf, collectionsOf, List.filterMap_cons, List.filter_cons]
    cases hvalue : collectionNodes? value with
    | none =>
      refine ⟨_, more, Snapshot.decodeEntries_other hvalue hdecode, hcollections, ?_, hmore⟩
      simp [hother]
    | some nodes =>
      obtain ⟨warnings, hnodes, hwarnings⟩ := decodeElements_accounts key 0 nodes
      refine ⟨_, _, Snapshot.decodeEntries_collection hvalue hnodes hdecode, ?_, ?_,
        List.rel_append hwarnings hmore⟩
      · change (key, nodes.map keptNode) :: _ = (key, nodes.map keptNode) :: _
        rw [hcollections]
        rfl
      · simpa using hother

theorem decode_eq_error_iff {data : Value} {error : FetchError} :
    Snapshot.decode data = .error error ↔
      (∀ entries, data ≠ .object entries) ∧
        error = .unreadable "expected the response data to be an object" := by
  unfold Snapshot.decode
  split
  · next entries =>
    obtain ⟨snapshot, warnings, hdecode, -⟩ := decodeEntries_accounts entries
    simp [hdecode]
  · next hother =>
    constructor
    · intro herror
      cases herror
      exact ⟨hother, rfl⟩
    · rintro ⟨-, rfl⟩
      rfl

theorem exists_of_ofItem_eq_nil {item : Value} {position : Nat}
    (h : Incident.ofItem item position = []) : ∃ block, kept? item = some block ∧ block.isRaw = false := by
  unfold Incident.ofItem Incident.ofBlock at h
  cases hkept : kept? item with
  | none => simp [hkept] at h
  | some block =>
    refine ⟨block, rfl, ?_⟩
    simp only [hkept, List.append_eq_nil_iff] at h
    simpa using h.1

theorem exists_of_ofNode_eq_nil {members : List (String × Value)} {items : List Value}
    (hitems : blocksOf? members = some (.array items)) (h : Incident.ofNode members = [])
    {item : Value} (hitem : item ∈ items) : ∃ block, kept? item = some block ∧ block.isRaw = false := by
  obtain ⟨position, hposition⟩ := List.mem_iff_getElem?.1 hitem
  rw [Incident.ofNode, hitems] at h
  exact exists_of_ofItem_eq_nil
    (List.flatMap_eq_nil_iff.1 h (item, position) (List.mk_mem_zipIdx_iff_getElem?.2 hposition))

theorem ofNode_eq_nil_of_incidentsOf {entries : List (String × Value)} (h : incidentsOf entries = [])
    {collection : String × List (List (String × Value))} (hcollection : collection ∈ collectionsOf entries)
    {members : List (String × Value)} (hmembers : members ∈ collection.2) :
    Incident.ofNode members = [] := by
  obtain ⟨index, hindex⟩ := List.mem_iff_getElem?.1 hmembers
  have hnodes := List.flatMap_eq_nil_iff.1 h collection hcollection
  have hnode := List.flatMap_eq_nil_iff.1 hnodes (members, index)
    (List.mk_mem_zipIdx_iff_getElem?.2 hindex)
  exact List.map_eq_nil_iff.1 hnode

theorem exists_item_of_mem_blocks {members : List (String × Value)} {block : EditorBlock}
    (h : block ∈ (keptNode members).blocks) :
    ∃ items, blocksOf? members = some (.array items) ∧ ∃ item ∈ items, kept? item = some block := by
  unfold ContentNode.blocks keptNode keptBlocks at h
  split at h
  · next items hitems => exact ⟨items, hitems, List.mem_filterMap.1 h⟩
  · simp at h

theorem length_filterMap_kept? (items : List Value) :
    (items.filterMap kept?).length + (items.filter fun item => (kept? item).isNone).length =
      items.length := by
  induction items with
  | nil => rfl
  | cons item items ih => cases h : kept? item <;> simp [h] <;> omega

/-- Every item of every block list is kept or dropped, in order; the warnings are one for each dropped
item, each raw payload, each stray attributes value and each stray block list, in their places, and
there are no others. Without warnings nothing was dropped and no payload is raw. -/
theorem decode_accounts (entries : List (String × Value)) :
    ∃ snapshot warnings, Snapshot.decode (.object entries) = .ok (snapshot, warnings) ∧
      snapshot.collections =
        (collectionsOf entries).map (fun collection => (collection.1, collection.2.map keptNode)) ∧
      List.Forall₂ Reports (incidentsOf entries) warnings ∧
      (∀ collection ∈ collectionsOf entries, ∀ members ∈ collection.2, ∀ items,
        blocksOf? members = some (.array items) →
          (keptNode members).editorBlocks = some (items.filterMap kept?) ∧
          (items.filterMap kept?).length + (items.filter fun item => (kept? item).isNone).length =
            items.length) ∧
      (warnings = [] → (∀ block ∈ snapshot.blocks, block.isRaw = false) ∧
        ∀ collection ∈ collectionsOf entries, ∀ members ∈ collection.2, ∀ items,
          blocksOf? members = some (.array items) → ∀ item ∈ items, (kept? item).isSome) := by
  obtain ⟨snapshot, warnings, hdecode, hcollections, -, hwarnings⟩ := decodeEntries_accounts entries
  refine ⟨snapshot, warnings, hdecode, hcollections, hwarnings, ?_, fun hsilent => ?_⟩
  · rintro collection - members - items hitems
    exact ⟨by simp [keptNode, keptBlocks, hitems], length_filterMap_kept? items⟩
  · rw [hsilent, List.forall₂_nil_right_iff] at hwarnings
    refine ⟨fun block hblock => ?_, fun collection hcollection members hmembers items hitems => ?_⟩
    · -- The block comes from an item of a node, and what a raw one would tell is not there.
      obtain ⟨node, hnode, hblock⟩ := List.mem_flatMap.1 hblock
      obtain ⟨_, hkept, hnode⟩ := List.mem_flatMap.1 hnode
      rw [hcollections] at hkept
      obtain ⟨collection, hcollection, rfl⟩ := List.mem_map.1 hkept
      obtain ⟨members, hmembers, rfl⟩ := List.mem_map.1 hnode
      obtain ⟨items, hitems, item, hitem, hitemBlock⟩ := exists_item_of_mem_blocks hblock
      have hsilentNode := ofNode_eq_nil_of_incidentsOf hwarnings hcollection hmembers
      obtain ⟨same, hsame, hraw⟩ := exists_of_ofNode_eq_nil hitems hsilentNode hitem
      obtain rfl : same = block := Option.some_inj.1 (hsame.symm.trans hitemBlock)
      exact hraw
    · intro item hitem
      have hsilentNode := ofNode_eq_nil_of_incidentsOf hwarnings hcollection hmembers
      obtain ⟨block, hblock, -⟩ := exists_of_ofNode_eq_nil hitems hsilentNode hitem
      simp [hblock]

end ThemeBlocks.Cms

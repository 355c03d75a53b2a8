import ThemeBlocks.Proofs.Cms.Sound
import ThemeBlocks.Proofs.Json.Printed
import ThemeBlocks.Report.Content

/-! What a reader finds in the JSON of a sync. The reader takes the last of equal keys. In a node the
list of blocks goes beside the fields, and no field has its key; in the data the collections go beside
the other entries, and there an entry may have theirs. -/

namespace ThemeBlocks.Report

open Json Json.Value Cms

def last? (key : String) (members : List (String × Value)) : Option Value :=
  lookup? key members.reverse

def reach? : List String → Value → Option Value
  | [], value => some value
  | key :: keys, .object members => (last? key members).bind (reach? keys)
  | _ :: _, _ => none

def ShowsBlock (block : EditorBlock) (shown : Value) : Prop :=
  reach? ["__typename"] shown = some (.string block.typeName) ∧
    reach? ["name"] shown = some (.string block.name) ∧
    reach? ["apiVersion"] shown = block.apiVersion.map (fun n => .number (.int n)) ∧
    reach? ["data"] shown = block.data.map Payload.toJson

/-- The blocks are under their own key, every field under its own, and nothing else is there. -/
structure ShowsNode (node : ContentNode) (shown : Value) : Prop where
  object : shown.isObject
  fields : ∀ key, key ≠ "editorBlocks" → reach? [key] shown = lookup? key node.fields
  blocks : Option.Rel (fun blocks shown => ∃ items, shown = .array items ∧
    List.Forall₂ ShowsBlock blocks items) node.editorBlocks (reach? ["editorBlocks"] shown)

def ShowsCollection (collection : String × List ContentNode) (shown : String × Value) : Prop :=
  shown.1 = collection.1 ∧ ∃ items, shown.2 = .array items ∧ List.Forall₂ ShowsNode collection.2 items

def ShowsWarning (warning : Warning) (shown : Value) : Prop :=
  reach? ["collection"] shown = some (.string warning.collection) ∧
    reach? ["node"] shown = some (.string warning.node) ∧
    reach? ["block"] shown = some (.string warning.block) ∧
    reach? ["message"] shown = some (.string warning.message)

structure Faithful (snapshot : Snapshot) (warnings : List Warning) (document : Value) : Prop where
  keys : Everywhere KeysDiffer document
  collections : ∃ shown, reach? ["data", "collections"] document = some (.object shown) ∧
    List.Forall₂ ShowsCollection snapshot.collections shown
  other : ∀ entry ∈ snapshot.other, reach? ["data", entry.1] document = some entry.2
  warnings : ∃ shown, reach? ["warnings"] document = some (.array shown) ∧
    List.Forall₂ ShowsWarning warnings shown

theorem last?_eq_lookup? {members : List (String × Value)} (hkeys : (members.map (·.1)).Nodup)
    (key : String) : last? key members = lookup? key members := by
  have hreverse : (members.reverse.map (·.1)).Nodup := by
    rw [List.map_reverse]
    exact List.nodup_reverse.2 hkeys
  cases h : lookup? key members with
  | none =>
    rw [lookup?_eq_none_iff] at h
    exact lookup?_eq_none_iff.2 (by simpa using h)
  | some value => exact lookup?_of_mem hreverse (List.mem_reverse.2 (mem_of_lookup? h))

theorem reach?_key (key : String) (members : List (String × Value)) :
    reach? [key] (.object members) = last? key members := by
  rw [reach?]
  cases last? key members <;> rfl

theorem showsBlock_toJson (block : EditorBlock) : ShowsBlock block block.toJson := by
  obtain ⟨typeName, name, apiVersion, data⟩ := block
  unfold ShowsBlock EditorBlock.toJson
  simp only [reach?_key]
  cases apiVersion <;> cases data <;> exact ⟨rfl, rfl, rfl, rfl⟩

theorem showsWarning_toJson (warning : Warning) : ShowsWarning warning warning.toJson :=
  ⟨rfl, rfl, rfl, rfl⟩

theorem sound_warning (warning : Warning) : Sound warning.toJson :=
  sound_object (by simp) (by simp [sound_string])

theorem showsNode_toJson {node : ContentNode} (hkeys : (node.fields.map (·.1)).Nodup)
    (hfresh : "editorBlocks" ∉ node.fields.map (·.1)) : ShowsNode node node.toJson := by
  obtain ⟨editorBlocks, fields⟩ := node
  cases editorBlocks with
  | none =>
    refine ⟨rfl, fun key hkey => (reach?_key _ _).trans (last?_eq_lookup? hkeys key), ?_⟩
    have hnone : reach? ["editorBlocks"] (ContentNode.toJson ⟨none, fields⟩) = none := by
      rw [ContentNode.toJson, reach?_key]
      exact (last?_eq_lookup? hkeys _).trans (lookup?_eq_none_iff.2 hfresh)
    rw [hnone]
    exact .none
  | some blocks =>
    have hall : ((("editorBlocks", .array (blocks.map EditorBlock.toJson)) :: fields).map
        (·.1)).Nodup := List.nodup_cons.2 ⟨hfresh, hkeys⟩
    have hlast : ∀ key, reach? [key] (ContentNode.toJson ⟨some blocks, fields⟩) =
        lookup? key (("editorBlocks", .array (blocks.map EditorBlock.toJson)) :: fields) :=
      fun key => (reach?_key _ _).trans (last?_eq_lookup? hall key)
    refine ⟨rfl, fun key hkey => ?_, ?_⟩
    · rw [hlast, lookup?, if_neg hkey.symm]
    · rw [hlast, lookup?, if_pos rfl]
      refine .some ⟨_, rfl, ?_⟩
      rw [List.forall₂_map_right_iff, List.forall₂_same]
      exact fun block _ => showsBlock_toJson block

theorem fresh_collections_iff {entries : List (String × Value)} :
    "collections" ∉ (entries.filter fun entry => (collectionNodes? entry.2).isNone).map (·.1) ↔
      ∀ entry ∈ entries, entry.1 = "collections" → isCollection entry.2 := by
  constructor
  · intro hfresh entry hentry hkey
    rw [isCollection_iff]
    cases hnodes : collectionNodes? entry.2 with
    | some nodes => exact ⟨nodes, rfl⟩
    | none =>
      refine absurd (List.mem_map.2 ⟨entry, List.mem_filter.2 ⟨hentry, ?_⟩, hkey⟩) hfresh
      rw [hnodes]
      rfl
  · intro h hmem
    obtain ⟨entry, hentry, hkey⟩ := List.mem_map.1 hmem
    obtain ⟨hentry, hnone⟩ := List.mem_filter.1 hentry
    obtain ⟨nodes, hnodes⟩ := isCollection_iff.1 (h entry hentry hkey)
    rw [hnodes] at hnone
    cases hnone

section Document

variable {entries : List (String × Value)} {context : Sync.Context}
  (hdata : Sound (.object entries))
  (hcollections : context.snapshot.collections =
    (collectionsOf entries).map fun collection => (collection.1, collection.2.map keptNode))
  (hother : context.snapshot.other = entries.filter fun entry => (collectionNodes? entry.2).isNone)

def collectionsJson (snapshot : Snapshot) : List (String × Value) :=
  snapshot.collections.map fun collection =>
    (collection.1, .array (collection.2.map ContentNode.toJson))

include hdata

theorem sound_collected {collection : String × List (List (String × Value))}
    (hcollection : collection ∈ collectionsOf entries) {members : List (String × Value)}
    (hmembers : members ∈ collection.2) : Sound (.object members) := by
  obtain ⟨entry, hentry, hcollected⟩ := List.mem_filterMap.1 hcollection
  obtain ⟨nodes, hnodes, rfl⟩ := Option.map_eq_some_iff.1 hcollected
  exact sound_nodes (hdata.member hentry) hnodes hmembers

include hcollections

theorem showsCollections :
    List.Forall₂ ShowsCollection context.snapshot.collections (collectionsJson context.snapshot) := by
  rw [collectionsJson, List.forall₂_map_right_iff, List.forall₂_same, hcollections]
  refine List.forall_mem_map.2 fun collection hcollection => ⟨rfl, _, rfl, ?_⟩
  rw [List.forall₂_map_right_iff, List.forall₂_same]
  refine List.forall_mem_map.2 fun members hmembers => ?_
  have hmember := sound_collected hdata hcollection hmembers
  exact showsNode_toJson (hmember.keys.sublist ((withoutKey_sublist _ _).map _))
    (not_mem_withoutKey _ _)

include hother

theorem sound_collections : Sound (.object (collectionsJson context.snapshot)) := by
  have hplaced := placed_of_decodeEntries hcollections hother
  refine sound_object ?_ ?_
  · have hkeys := (List.nodup_append.1 (hplaced.keys.nodup_iff.2 hdata.keys)).1
    rw [collectionsJson, List.map_map]
    exact hkeys
  · rw [collectionsJson, List.forall_mem_map, hcollections, List.forall_mem_map]
    refine fun collection hcollection => sound_array ?_
    rw [List.forall_mem_map, List.forall_mem_map]
    exact fun members hmembers => sound_node (sound_collected hdata hcollection hmembers)

theorem nodup_other : (context.snapshot.other.map (·.1)).Nodup := by
  have hplaced := placed_of_decodeEntries hcollections hother
  exact (List.nodup_append.1 (hplaced.keys.nodup_iff.2 hdata.keys)).2.1

theorem everywhere_document_iff {p : Value → Prop} (hp : ∀ part, KeysDiffer part ∧ FitsWord part → p part) :
    Everywhere p (contentDocument context) ↔ p context.snapshot.toJson := by
  have hplaced := placed_of_decodeEntries hcollections hother
  have hcollected : Everywhere p (.object (collectionsJson context.snapshot)) :=
    (sound_collections hdata hcollections hother).mono hp
  have hothers : ∀ entry ∈ context.snapshot.other, Everywhere p entry.2 := fun entry hentry =>
    (hdata.member (hplaced.other.subset hentry)).mono hp
  have hwarnings : Everywhere p (.array (context.warnings.map Warning.toJson)) :=
    (sound_array (List.forall_mem_map.2 fun warning _ => sound_warning warning)).mono hp
  have hresolution : Everywhere p (.string context.resolution.name) :=
    (sound_string _).mono hp
  have houtdated : Everywhere p (.bool context.templatesOutdated) :=
    (everywhere_scalar_iff rfl).2 (hp _ ⟨trivial, trivial⟩)
  have hsnapshot : Everywhere p context.snapshot.toJson ↔ p context.snapshot.toJson :=
    ⟨Everywhere.here, fun h =>
      everywhere_object_iff.2 ⟨h, List.forall_mem_cons.2 ⟨hcollected, hothers⟩⟩⟩
  have hself : p (contentDocument context) := hp _ ⟨by simp [contentDocument, KeysDiffer], trivial⟩
  rw [← hsnapshot]
  constructor
  · exact fun h => (everywhere_object_iff.1 h).2 ("data", _) (.tail _ (.tail _ (.head _)))
  · intro h
    refine everywhere_object_iff.2 ⟨hself, ?_⟩
    simp only [List.forall_mem_cons]
    exact ⟨hresolution, houtdated, h, hwarnings, List.forall_mem_nil _⟩

theorem keysDiffer_document_iff :
    Everywhere KeysDiffer (contentDocument context) ↔
      "collections" ∉ context.snapshot.other.map (·.1) := by
  have hkeys := nodup_other hdata hcollections hother
  rw [everywhere_document_iff hdata hcollections hother fun part => And.left]
  exact List.nodup_cons.trans (and_iff_left hkeys)

theorem readsBack_document
    (hfloats : ∀ bits, Within (.number (.float bits)) (contentDocument context) →
      (Number.float bits).ReadsBack) : Everywhere Value.ReadsBack (contentDocument context) := by
  have hwords := (everywhere_document_iff hdata hcollections hother fun part => And.right).2 trivial
  intro part hpart
  cases part with
  | number n =>
    cases n with
    | int n => exact Number.readsBack_int (hwords _ hpart)
    | float bits => exact hfloats bits hpart
  | null => trivial
  | bool value => trivial
  | string text => trivial
  | array items => trivial
  | object members => trivial

theorem faithful_document_iff :
    Faithful context.snapshot context.warnings (contentDocument context) ↔
      "collections" ∉ context.snapshot.other.map (·.1) := by
  have hkeys := nodup_other hdata hcollections hother
  refine ⟨fun h => (keysDiffer_document_iff hdata hcollections hother).1 h.keys, fun hfresh => ?_⟩
  have hall : ((("collections", .object (collectionsJson context.snapshot)) ::
      context.snapshot.other).map (·.1)).Nodup := List.nodup_cons.2 ⟨hfresh, hkeys⟩
  have hlast : ∀ key, reach? ["data", key] (contentDocument context) =
      lookup? key (("collections", .object (collectionsJson context.snapshot)) ::
        context.snapshot.other) :=
    fun key => (reach?_key _ _).trans (last?_eq_lookup? hall key)
  refine ⟨(keysDiffer_document_iff hdata hcollections hother).2 hfresh,
    ⟨_, hlast _, showsCollections hdata hcollections⟩, fun entry hentry => ?_, ⟨_, rfl, ?_⟩⟩
  · exact (hlast _).trans (lookup?_of_mem hall (List.mem_cons_of_mem _ hentry))
  · rw [List.forall₂_map_right_iff, List.forall₂_same]
    exact fun warning _ => showsWarning_toJson warning

end Document

/-- The JSON of a sync is faithful, in either layout, unless the data have an entry that is called as
the collections are and is no collection. -/
theorem contentJson_faithful_iff {entries : List (String × Value)} {context : Sync.Context}
    (isPretty : Bool) (hkeys : Everywhere KeysDiffer (.object entries))
    (hwords : Everywhere FitsWord (.object entries))
    (hdecode : Snapshot.decode (.object entries) = .ok (context.snapshot, context.warnings))
    (hfloats : ∀ bits, Within (.number (.float bits)) (contentDocument context) →
      (Number.float bits).ReadsBack) :
    ∃ document, treeOf (contentJson isPretty context) = .ok document ∧
      (Faithful context.snapshot context.warnings document ↔
        ∀ entry ∈ entries, entry.1 = "collections" → isCollection entry.2) := by
  have hdata : Sound (.object entries) := everywhere_and_iff.2 ⟨hkeys, hwords⟩
  obtain ⟨snapshot, warnings, hdecoded, hcollections, hother, -⟩ := decodeEntries_accounts entries
  obtain ⟨rfl, rfl⟩ := Prod.mk.inj (Except.ok.inj (hdecoded.symm.trans hdecode))
  refine ⟨contentDocument context,
    treeOf_render (readsBack_document hdata hcollections hother hfloats) isPretty, ?_⟩
  rw [faithful_document_iff hdata hcollections hother, hother]
  exact fresh_collections_iff

def homeEntries : List (String × Value) :=
  [("pages", .object [("nodes", .array [.object
      [("editorBlocks", .array [.object [("attributes", .object [("data", .string "[1]")]),
        ("name", .string "acf/hero")]]), ("slug", .string "home")]])]),
    ("ratio", .number (.float 0x3ff8000000000000))]

def homeContext : Sync.Context where
  snapshot := ⟨[("pages", [⟨some [⟨"", "acf/hero", none, some (.decoded (.array [.number (.int 1)]))⟩],
    [("slug", .string "home")]⟩])], [("ratio", .number (.float 0x3ff8000000000000))]⟩
  resolution := .full
  warnings := []

theorem contentJson_faithful_home :
    ∃ document, treeOf (contentJson true homeContext) = .ok document ∧
      Faithful homeContext.snapshot homeContext.warnings document := by
  have hkeys : Everywhere KeysDiffer (.object homeEntries) := by simp [homeEntries, KeysDiffer]
  have hwords : Everywhere FitsWord (.object homeEntries) := by simp [homeEntries, FitsWord]
  have hdecode : Snapshot.decode (.object homeEntries) =
      .ok (homeContext.snapshot, homeContext.warnings) := by rfl
  have hratio : (Number.float 0x3ff8000000000000).ReadsBack := by
    have htext : (Number.float 0x3ff8000000000000).text = "1.5" := by decide +kernel
    rw [Number.ReadsBack, htext]
    rfl
  have hfloats : Everywhere (fun part => ∀ bits, part = .number (.float bits) →
      (Number.float bits).ReadsBack) (contentDocument homeContext) := by
    simp [contentDocument, homeContext, Snapshot.toJson, ContentNode.toJson, EditorBlock.toJson,
      Payload.toJson, hratio]
  obtain ⟨document, htree, hiff⟩ := contentJson_faithful_iff true hkeys hwords hdecode
    fun bits hbits => hfloats _ hbits bits rfl
  exact ⟨document, htree, hiff.2 (by simp [homeEntries])⟩

def clashingContext : Sync.Context where
  snapshot := ⟨[], [("collections", .object [])]⟩
  resolution := .full
  warnings := []

theorem clashing_unfaithful :
    Snapshot.decode (.object [("collections", .object [])]) =
        .ok (clashingContext.snapshot, clashingContext.warnings) ∧
      ∃ document, treeOf (contentJson false clashingContext) = .ok document ∧
        document.member? "data" =
          some (.object [("collections", .object []), ("collections", .object [])]) ∧
        ¬ Faithful clashingContext.snapshot clashingContext.warnings document := by
  have hreads : Everywhere Value.ReadsBack (contentDocument clashingContext) := by
    simp [contentDocument, clashingContext, Snapshot.toJson, Value.ReadsBack]
  refine ⟨rfl, _, treeOf_render hreads false, rfl, fun h => ?_⟩
  have hdata := h.keys (.object [("collections", .object []), ("collections", .object [])])
    (.member (.tail _ (.tail _ (.head _))) .self)
  simp [KeysDiffer] at hdata

end ThemeBlocks.Report

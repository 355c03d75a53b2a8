import ThemeBlocks.Proofs.Cms.Entries
import ThemeBlocks.Proofs.Json.Tree

/-! What is kept of data is as sound as the data: the keys of every object differ, and every integer
fits. This also holds of the payloads, which are texts within the data and are parsed on their own. -/

namespace ThemeBlocks.Cms

open Json Json.Value

def Sound : Value → Prop :=
  Everywhere fun part => KeysDiffer part ∧ FitsWord part

theorem sound_string (text : String) : Sound (.string text) :=
  (everywhere_scalar_iff rfl).2 ⟨trivial, trivial⟩

theorem sound_array {items : List Value} (h : ∀ item ∈ items, Sound item) : Sound (.array items) :=
  everywhere_array_iff.2 ⟨⟨trivial, trivial⟩, h⟩

theorem sound_object {members : List (String × Value)} (hkeys : (members.map (·.1)).Nodup)
    (h : ∀ member ∈ members, Sound member.2) : Sound (.object members) :=
  everywhere_object_iff.2 ⟨⟨hkeys, trivial⟩, h⟩

section Parts

variable {items : List Value} {members : List (String × Value)} {key : String} {value : Value}

theorem Sound.item (h : Sound (.array items)) {item : Value} (hitem : item ∈ items) : Sound item :=
  (everywhere_array_iff.1 h).2 item hitem

theorem Sound.keys (h : Sound (.object members)) : (members.map (·.1)).Nodup :=
  h.here.1

theorem Sound.member (h : Sound (.object members)) {member : String × Value}
    (hmember : member ∈ members) : Sound member.2 :=
  (everywhere_object_iff.1 h).2 member hmember

theorem mem_of_lookup? {α : Type} {value : α} {members : List (String × α)}
    (h : lookup? key members = some value) : (key, value) ∈ members := by
  induction members with
  | nil => cases h
  | cons member members ih =>
    obtain ⟨k, v⟩ := member
    rw [lookup?] at h
    split at h
    · next heq =>
      cases h
      subst heq
      exact List.mem_cons_self
    · exact List.mem_cons_of_mem _ (ih h)

theorem Sound.lookup (h : Sound (.object members)) (hvalue : lookup? key members = some value) :
    Sound value :=
  h.member (mem_of_lookup? hvalue)

end Parts

section Blocks

variable {item : Value} {received : ReceivedBlock} {block : EditorBlock}

theorem fits_optionalInteger {value : Option Value} {n : Int}
    (h : optionalInteger value = .ok (some n)) : WordRange.signed64.contains n := by
  unfold optionalInteger at h
  split at h
  · cases h
  · cases h
  · split at h
    · next hfits =>
      cases h
      exact hfits
    · cases h
  · cases h

theorem fits_apiVersion (h : ReceivedBlock.ofJson item = .ok received) {n : Int}
    (hn : received.apiVersion = some n) : WordRange.signed64.contains n := by
  cases item with
  | object members =>
    obtain ⟨typeName, -, h⟩ := exists_ok_of_bind h
    obtain ⟨apiVersion, hversion, h⟩ := exists_ok_of_bind h
    obtain ⟨name, -, ⟨⟩⟩ := exists_ok_of_bind h
    cases hn
    exact fits_optionalInteger hversion
  | array items =>
    obtain ⟨typeName, -, h⟩ := exists_ok_of_bind h
    obtain ⟨name, -, h⟩ := exists_ok_of_bind h
    obtain ⟨apiVersion, hversion, h⟩ := exists_ok_of_bind h
    split at h
    · cases h
    · cases h
      cases hn
      exact fits_optionalInteger hversion
  | null => cases h
  | bool value => cases h
  | number value => cases h
  | string value => cases h

theorem sound_attributes (h : ReceivedBlock.ofJson item = .ok received) (hitem : Sound item)
    {value : Value} (hvalue : received.attributes = some value) : Sound value := by
  rw [attributes_ofJson h] at hvalue
  have hpresent : attributesOf? item = some value := by
    unfold present at hvalue
    split at hvalue
    · cases hvalue
    · exact hvalue
  cases item with
  | object members => exact hitem.lookup hpresent
  | array items => exact hitem.item (List.mem_of_getElem? hpresent)
  | null => cases hpresent
  | bool value => cases hpresent
  | number value => cases hpresent
  | string value => cases hpresent

/-- A payload is a part of the data, or a text of the data, or what such a text stands for. -/
theorem sound_payload (h : ReceivedBlock.ofJson item = .ok received) (hitem : Sound item)
    {payload : Payload} (hpayload : received.payload.1 = some payload) : Sound payload.toJson := by
  unfold ReceivedBlock.payload at hpayload
  split at hpayload
  · cases hpayload
  · next members hattributes =>
    have hmembers := sound_attributes h hitem hattributes
    split at hpayload
    · cases hpayload
    · cases hpayload
    · next text _ =>
      split at hpayload
      · next value hparse =>
        cases hpayload
        exact everywhere_and_iff.2 (sound_of_parse hparse)
      · cases hpayload
        exact sound_string text
    · next value _ _ hvalue =>
      cases hpayload
      exact hmembers.lookup hvalue
  · cases hpayload

theorem sound_block_toJson (hversion : ∀ n, block.apiVersion = some n → IsWord n)
    (hdata : ∀ payload, block.data = some payload → Sound payload.toJson) : Sound block.toJson := by
  obtain ⟨typeName, name, apiVersion, data⟩ := block
  have hword : ∀ n, apiVersion = some n → Sound (.number (.int n)) := fun n hn =>
    (everywhere_scalar_iff rfl).2 ⟨trivial, hversion n hn⟩
  cases apiVersion <;> cases data <;>
    refine sound_object (by simp) ?_ <;> simp_all [sound_string]

theorem sound_block (hitem : Sound item) (hblock : kept? item = some block) : Sound block.toJson := by
  unfold kept? EditorBlock.decode at hblock
  cases h : ReceivedBlock.ofJson item with
  | error cause =>
    rw [h] at hblock
    cases hblock
  | ok received =>
    rw [h] at hblock
    cases hblock
    exact sound_block_toJson (fun n hn => isWord_of_signed64 (fits_apiVersion h hn))
      fun payload hpayload => sound_payload h hitem hpayload

end Blocks

theorem withoutKey_sublist (key : String) (members : List (String × Value)) :
    (withoutKey key members).Sublist members :=
  List.filter_sublist

theorem not_mem_withoutKey (key : String) (members : List (String × Value)) :
    key ∉ (withoutKey key members).map (·.1) := by
  simp [withoutKey]

theorem sound_node {members : List (String × Value)} (h : Sound (.object members)) :
    Sound (keptNode members).toJson := by
  have hfields : ∀ member ∈ withoutKey "editorBlocks" members, Sound member.2 :=
    fun member hmember => h.member ((withoutKey_sublist _ _).subset hmember)
  have hkeys : ((withoutKey "editorBlocks" members).map (·.1)).Nodup :=
    h.keys.sublist ((withoutKey_sublist _ _).map _)
  unfold ContentNode.toJson keptNode
  cases hblocks : keptBlocks members with
  | none => exact sound_object hkeys hfields
  | some blocks =>
    refine sound_object (List.nodup_cons.2 ⟨not_mem_withoutKey _ _, hkeys⟩)
      (List.forall_mem_cons.2 ⟨sound_array (List.forall_mem_map.2 fun block hblock => ?_), hfields⟩)
    have hmem : block ∈ (keptNode members).blocks := by
      rw [ContentNode.blocks, keptNode, hblocks]
      exact hblock
    obtain ⟨items, hitems, item, hitem, hkept⟩ := exists_item_of_mem_blocks hmem
    exact sound_block ((h.lookup hitems).item hitem) hkept

theorem sound_nodes {entry : Value} {nodes : List (List (String × Value))} (h : Sound entry)
    (hnodes : collectionNodes? entry = some nodes) {members : List (String × Value)}
    (hmembers : members ∈ nodes) : Sound (.object members) := by
  rw [collectionNodes?_eq_some_iff] at hnodes
  cases entry with
  | object outer => exact (h.lookup hnodes).item (List.mem_map_of_mem hmembers)
  | null => cases hnodes
  | bool value => cases hnodes
  | number value => cases hnodes
  | string value => cases hnodes
  | array items => cases hnodes

end ThemeBlocks.Cms

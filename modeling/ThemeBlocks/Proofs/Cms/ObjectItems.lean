import ThemeBlocks.Proofs.Cms.ListedBlocks

/-! Items of a block list that are objects. Four members are looked at, and within the attributes one
more; what they may be is told member by member, and with it what becomes of the item. An item that
cannot be read is left out under its own name, if that is a text, and under its place otherwise. -/

namespace ThemeBlocks.Cms

open Json

/-- A text that may be missing or null, and is empty then. -/
inductive HoldsText : Option Value → String → Prop
  | absent : HoldsText none ""
  | null : HoldsText (some .null) ""
  | text (text : String) : HoldsText (some (.string text)) text

def IsInteger64 (n : Int) : Prop :=
  -0x8000000000000000 ≤ n ∧ n < 0x8000000000000000

/-- An integer of 64 bits that may be missing or null. -/
inductive HoldsInteger : Option Value → Option Int → Prop
  | absent : HoldsInteger none none
  | null : HoldsInteger (some .null) none
  | integer {n : Int} : IsInteger64 n → HoldsInteger (some (.number (.int n))) (some n)

/-- The attributes have this payload, and this is said of them. -/
inductive Delivers : Option Value → Option Payload → Option String → Prop
  | absent : Delivers none none none
  | null : Delivers (some .null) none none
  | stray {value : Value} : value ≠ .null → (∀ members, value ≠ .object members) →
      Delivers (some value) none (some ("attributes is not an object: " ++ value.compact))
  | noData {members : List (String × Value)} : lookup? "data" members = none →
      Delivers (some (.object members)) none none
  | nullData {members : List (String × Value)} : lookup? "data" members = some .null →
      Delivers (some (.object members)) none none
  | readable {members : List (String × Value)} {text : String} {value : Value} :
      lookup? "data" members = some (.string text) → parse text = .ok value →
      Delivers (some (.object members)) (some (.decoded value)) none
  | unreadable {members : List (String × Value)} {text message : String} :
      lookup? "data" members = some (.string text) → parse text = .error message →
      Delivers (some (.object members)) (some (.raw text)) (some message)
  | value {members : List (String × Value)} {value : Value} :
      lookup? "data" members = some value → value ≠ .null → (∀ text, value ≠ .string text) →
      Delivers (some (.object members)) (some (.decoded value)) none

theorem signed64_contains_iff {n : Int} : WordRange.signed64.contains n ↔ IsInteger64 n := by
  rw [WordRange.contains, Bool.and_eq_true, decide_eq_true_iff, decide_eq_true_iff]
  change -0x8000000000000000 ≤ n ∧ n ≤ 0x7fffffffffffffff ↔ _
  unfold IsInteger64
  omega

theorem holdsText_iff {value : Option Value} {text : String} :
    HoldsText value text ↔ ∃ found, optionalText value = .ok found ∧ found.getD "" = text := by
  constructor
  · intro h
    cases h <;> exact ⟨_, rfl, rfl⟩
  · rintro ⟨found, hfound, rfl⟩
    unfold optionalText at hfound
    split at hfound <;> cases hfound
    · exact .absent
    · exact .null
    · exact .text _

theorem holdsInteger_iff {value : Option Value} {n : Option Int} :
    HoldsInteger value n ↔ optionalInteger value = .ok n := by
  constructor
  · intro h
    cases h with
    | absent => rfl
    | null => rfl
    | integer hrange => exact if_pos (signed64_contains_iff.2 hrange)
  · intro h
    unfold optionalInteger at h
    split at h
    · cases h
      exact .absent
    · cases h
      exact .null
    · split at h
      · next hrange =>
        cases h
        exact .integer (signed64_contains_iff.1 hrange)
      · cases h
    · cases h

section Payload

variable {received : ReceivedBlock} {attributes : Option Value} {data : Option Payload}
  {problem : Option String} (hattributes : received.attributes = present attributes)

include hattributes

theorem payload_of_delivers (h : Delivers attributes data problem) :
    received.payload = (data, problem) := by
  unfold ReceivedBlock.payload
  rw [hattributes]
  cases h with
  | absent => rfl
  | null => rfl
  | @stray value hnull hobject =>
    cases value with
    | null => exact absurd rfl hnull
    | object members => exact absurd rfl (hobject members)
    | bool flag => rfl
    | number n => rfl
    | string text => rfl
    | array items => rfl
  | noData hdata => simp only [present, hdata]
  | nullData hdata => simp only [present, hdata]
  | readable hdata hparse => simp only [present, hdata, hparse]
  | unreadable hdata hparse => simp only [present, hdata, hparse]
  | @value members value hdata hnull htext =>
    cases value with
    | null => exact absurd rfl hnull
    | string text => exact absurd rfl (htext text)
    | bool flag => simp only [present, hdata]
    | number n => simp only [present, hdata]
    | array items => simp only [present, hdata]
    | object inner => simp only [present, hdata]

theorem delivers_payload : Delivers attributes received.payload.1 received.payload.2 := by
  unfold ReceivedBlock.payload
  rw [hattributes]
  cases attributes with
  | none => exact .absent
  | some value =>
    cases value with
    | null => exact .null
    | object members =>
      simp only [present]
      split
      · next hdata => exact .noData hdata
      · next hdata => exact .nullData hdata
      · next text hdata =>
        cases hparse : parse text with
        | ok value => exact .readable hdata hparse
        | error message => exact .unreadable hdata hparse
      · next value hnull htext hdata => exact .value hdata hnull htext
    | bool flag => exact .stray (by simp) (by simp)
    | number n => exact .stray (by simp) (by simp)
    | string text => exact .stray (by simp) (by simp)
    | array items => exact .stray (by simp) (by simp)

end Payload

structure Fits (members : List (String × Value)) : Prop where
  typeName : MayBeText (lookup? "__typename" members)
  name : MayBeText (lookup? "name" members)
  apiVersion : lookup? "apiVersion" members = none ∨ lookup? "apiVersion" members = some .null ∨
    ∃ n, lookup? "apiVersion" members = some (.number (.int n)) ∧ IsInteger64 n

structure ReadsAs (members : List (String × Value)) (block : EditorBlock) (problem : Option String) :
    Prop where
  typeName : HoldsText (lookup? "__typename" members) block.typeName
  name : HoldsText (lookup? "name" members) block.name
  apiVersion : HoldsInteger (lookup? "apiVersion" members) block.apiVersion
  payload : Delivers (lookup? "attributes" members) block.data problem

theorem mayBeInteger_iff {value : Option Value} :
    MayBeInteger value ↔ value = none ∨ value = some .null ∨
      ∃ n, value = some (.number (.int n)) ∧ IsInteger64 n := by
  unfold MayBeInteger
  simp only [signed64_contains_iff]

theorem ofJson_object_eq_ok_iff {members : List (String × Value)} {received : ReceivedBlock} :
    ReceivedBlock.ofJson (.object members) = .ok received ↔
      optionalText (lookup? "__typename" members) = .ok received.typeName ∧
        optionalText (lookup? "name" members) = .ok received.name ∧
        optionalInteger (lookup? "apiVersion" members) = .ok received.apiVersion ∧
        received.attributes = present (lookup? "attributes" members) := by
  constructor
  · intro h
    obtain ⟨typeName, htype, h⟩ := exists_ok_of_bind h
    obtain ⟨apiVersion, hversion, h⟩ := exists_ok_of_bind h
    obtain ⟨name, hname, h⟩ := exists_ok_of_bind h
    cases h
    exact ⟨htype, hname, hversion, rfl⟩
  · rintro ⟨htype, hname, hversion, hattributes⟩
    change (optionalText (lookup? "__typename" members) >>= _) = _
    rw [bind_of_ok htype, bind_of_ok hversion, bind_of_ok hname, ← hattributes]

theorem exists_ofJson_object_iff {members : List (String × Value)} :
    (∃ received, ReceivedBlock.ofJson (.object members) = .ok received) ↔ Fits members := by
  simp only [ofJson_object_eq_ok_iff]
  constructor
  · rintro ⟨received, htype, hname, hversion, -⟩
    exact ⟨exists_optionalText_iff.1 ⟨_, htype⟩, exists_optionalText_iff.1 ⟨_, hname⟩,
      mayBeInteger_iff.1 (exists_optionalInteger_iff.1 ⟨_, hversion⟩)⟩
  · intro h
    obtain ⟨typeName, htype⟩ := exists_optionalText_iff.2 h.typeName
    obtain ⟨name, hname⟩ := exists_optionalText_iff.2 h.name
    obtain ⟨apiVersion, hversion⟩ := exists_optionalInteger_iff.2 (mayBeInteger_iff.2 h.apiVersion)
    exact ⟨⟨typeName, name, apiVersion, present (lookup? "attributes" members)⟩, htype, hname,
      hversion, rfl⟩

theorem decode_eq_kept_iff {item : Value} {block : EditorBlock} {problem : Option String} :
    EditorBlock.decode item = .kept block problem ↔
      ∃ received, ReceivedBlock.ofJson item = .ok received ∧
        received.typeName.getD "" = block.typeName ∧ received.name.getD "" = block.name ∧
        received.apiVersion = block.apiVersion ∧ received.payload = (block.data, problem) := by
  unfold EditorBlock.decode
  cases ReceivedBlock.ofJson item with
  | error cause => simp
  | ok received =>
    obtain ⟨typeName, name, apiVersion, data⟩ := block
    simp [Prod.ext_iff, and_assoc]

theorem decode_object_eq_kept_iff {members : List (String × Value)} {block : EditorBlock}
    {problem : Option String} :
    EditorBlock.decode (.object members) = .kept block problem ↔ ReadsAs members block problem := by
  rw [decode_eq_kept_iff]
  simp only [ofJson_object_eq_ok_iff]
  constructor
  · rintro ⟨received, ⟨htype, hname, hversion, hattributes⟩, htypeName, hnameText, hnumber, hpayload⟩
    refine ⟨holdsText_iff.2 ⟨_, htype, htypeName⟩, holdsText_iff.2 ⟨_, hname, hnameText⟩,
      holdsInteger_iff.2 (hnumber ▸ hversion), ?_⟩
    have hdelivers := delivers_payload hattributes
    rw [hpayload] at hdelivers
    exact hdelivers
  · intro h
    obtain ⟨typeName, htype, htypeName⟩ := holdsText_iff.1 h.typeName
    obtain ⟨name, hname, hnameText⟩ := holdsText_iff.1 h.name
    have hversion := holdsInteger_iff.1 h.apiVersion
    exact ⟨⟨typeName, name, block.apiVersion, present (lookup? "attributes" members)⟩,
      ⟨htype, hname, hversion, rfl⟩, htypeName, hnameText, rfl, payload_of_delivers rfl h.payload⟩

theorem exists_readsAs_iff {members : List (String × Value)} :
    (∃ block problem, ReadsAs members block problem) ↔ Fits members := by
  rw [← exists_ofJson_object_iff]
  simp only [← decode_object_eq_kept_iff, decode_eq_kept_iff]
  constructor
  · rintro ⟨block, problem, received, hreceived, -⟩
    exact ⟨received, hreceived⟩
  · rintro ⟨received, hreceived⟩
    exact ⟨⟨_, _, _, _⟩, _, received, hreceived, rfl, rfl, rfl, rfl⟩

inductive Called (members : List (String × Value)) (position : Nat) : String → Prop
  | name {text : String} : lookup? "name" members = some (.string text) → Called members position text
  | position : (∀ text, lookup? "name" members ≠ some (.string text)) →
      Called members position ("#" ++ toString position)

theorem exists_called_of_not_fits {members : List (String × Value)} (h : ¬ Fits members)
    (position : Nat) : ∃ called message, Called members position called ∧
      kept? (.object members) = none ∧ remarksOn (.object members) position = [⟨called, message⟩] := by
  have hcalled : Called members position
      (((lookup? "name" members).bind Value.text?).getD ("#" ++ toString position)) := by
    cases hname : lookup? "name" members with
    | none => exact .position (by simp [hname])
    | some value =>
      cases value with
      | string text => exact .name hname
      | _ => exact .position (by simp [hname])
  unfold kept? remarksOn EditorBlock.decode
  cases hreceived : ReceivedBlock.ofJson (.object members) with
  | ok received => exact absurd (exists_ofJson_object_iff.1 ⟨received, hreceived⟩) h
  | error cause => exact ⟨_, _, hcalled, rfl, rfl⟩

inductive SameAttributes : Option Value → Option Value → Prop
  | same (attributes : Option Value) : SameAttributes attributes attributes
  | objects {members others : List (String × Value)} :
      lookup? "data" others = lookup? "data" members →
      SameAttributes (some (.object members)) (some (.object others))

structure SameMembers (members others : List (String × Value)) : Prop where
  typeName : lookup? "__typename" others = lookup? "__typename" members
  name : lookup? "name" others = lookup? "name" members
  apiVersion : lookup? "apiVersion" others = lookup? "apiVersion" members
  attributes : SameAttributes (lookup? "attributes" members) (lookup? "attributes" others)

theorem Delivers.of_sameAttributes {attributes others : Option Value} {data : Option Payload}
    {problem : Option String} (hsame : SameAttributes attributes others)
    (h : Delivers attributes data problem) : Delivers others data problem := by
  cases hsame with
  | same => exact h
  | objects hdata =>
    cases h with
    | stray _ hobject => exact absurd rfl (hobject _)
    | noData hgiven => exact .noData (hdata.trans hgiven)
    | nullData hgiven => exact .nullData (hdata.trans hgiven)
    | readable hgiven hparse => exact .readable (hdata.trans hgiven) hparse
    | unreadable hgiven hparse => exact .unreadable (hdata.trans hgiven) hparse
    | value hgiven hnull htext => exact .value (hdata.trans hgiven) hnull htext

theorem ofJson_of_sameMembers {members others : List (String × Value)} (h : SameMembers members others) :
    ReceivedBlock.ofJson (.object others) = (ReceivedBlock.ofJson (.object members)).map fun received =>
      { received with attributes := present (lookup? "attributes" others) } := by
  simp only [ReceivedBlock.ofJson, h.typeName, h.name, h.apiVersion]
  cases optionalText (lookup? "__typename" members) with
  | error cause => rfl
  | ok typeName =>
    cases optionalInteger (lookup? "apiVersion" members) with
    | error cause => rfl
    | ok apiVersion => cases optionalText (lookup? "name" members) <;> rfl

theorem decode_of_sameMembers {members others : List (String × Value)} (h : SameMembers members others) :
    EditorBlock.decode (.object others) = EditorBlock.decode (.object members) := by
  unfold EditorBlock.decode
  rw [ofJson_of_sameMembers h]
  cases hreceived : ReceivedBlock.ofJson (.object members) with
  | error cause =>
    simp only [Except.map, Value.member?, h.name]
  | ok received =>
    have hattributes := (ofJson_object_eq_ok_iff.1 hreceived).2.2.2
    have hdelivers := (delivers_payload hattributes).of_sameAttributes h.attributes
    have hpayload : ReceivedBlock.payload
        { received with attributes := present (lookup? "attributes" others) } = received.payload :=
      payload_of_delivers rfl hdelivers
    simp only [Except.map, hpayload]

theorem decodeItems_append (position : Nat) (front back : List Value) :
    decodeItems position (front ++ back) =
      ((decodeItems position front).1 ++ (decodeItems (position + front.length) back).1,
        (decodeItems position front).2 ++ (decodeItems (position + front.length) back).2) := by
  induction front generalizing position with
  | nil => rfl
  | cons item front ih =>
    have hposition : position + 1 + front.length = position + (item :: front).length := by
      rw [List.length_cons]
      omega
    rw [List.cons_append, decodeItems_cons, decodeItems_cons position item front, ih, hposition]
    simp only [List.append_assoc]

theorem decodeItems_around (front back : List Value) (item : Value) :
    decodeItems 0 (front ++ item :: back) =
      ((decodeItems 0 front).1 ++ ((kept? item).toList ++ (decodeItems (front.length + 1) back).1),
        (decodeItems 0 front).2 ++
          (remarksOn item front.length ++ (decodeItems (front.length + 1) back).2)) := by
  rw [decodeItems_append, decodeItems_cons, Nat.zero_add]

/-- What becomes of an object in a block list. It is kept exactly if its members fit, as the block that
they say; members beside those make no difference. If they do not fit, it is left out with one remark,
under its name or its place; what stands around it is treated as it would be without it. -/
theorem object_item_decoded (members : List (String × Value)) :
    (∀ block problem, EditorBlock.decode (.object members) = .kept block problem ↔
        ReadsAs members block problem) ∧
      ((∃ block problem, EditorBlock.decode (.object members) = .kept block problem) ↔ Fits members) ∧
      (∀ others, SameMembers members others →
        EditorBlock.decode (.object others) = EditorBlock.decode (.object members)) ∧
      ∀ front back, let out := decodeItems 0 (front ++ .object members :: back)
        let before := decodeItems 0 front
        let after := decodeItems (front.length + 1) back
        (∀ block problem, ReadsAs members block problem →
          out = (before.1 ++ block :: after.1,
            before.2 ++ ((problem.map (Remark.mk block.name)).toList ++ after.2))) ∧
        (¬ Fits members → ∃ called message, Called members front.length called ∧
          out = (before.1 ++ after.1, before.2 ++ ⟨called, message⟩ :: after.2)) := by
  refine ⟨fun _ _ => decode_object_eq_kept_iff, ?_, fun _ => decode_of_sameMembers, ?_⟩
  · simp only [decode_object_eq_kept_iff]
    exact exists_readsAs_iff
  · intro front back out before after
    have hout := decodeItems_around front back (.object members)
    constructor
    · intro block problem hreads
      have hdecode := decode_object_eq_kept_iff.2 hreads
      have hkept : kept? (.object members) = some block := by rw [kept?, hdecode]
      have hremarks : remarksOn (.object members) front.length =
          (problem.map (Remark.mk block.name)).toList := by rw [remarksOn, hdecode]
      rw [hkept, hremarks] at hout
      exact hout
    · intro hfits
      obtain ⟨called, message, hcalled, hkept, hremarks⟩ :=
        exists_called_of_not_fits hfits front.length
      rw [hkept, hremarks] at hout
      exact ⟨called, message, hcalled, hout⟩

def wordVersion : List (String × Value) :=
  [("name", .null), ("apiVersion", .string "three")]

theorem object_item_decoded_wordVersion :
    ¬ Fits wordVersion ∧
      EditorBlock.decode (.object (("order", .bool true) :: wordVersion)) =
        EditorBlock.decode (.object wordVersion) ∧
      ∃ called message, Called wordVersion 1 called ∧
        decodeItems 0 [.null, .object wordVersion, .null] =
          ((decodeItems 0 [.null]).1 ++ (decodeItems 2 [.null]).1,
            (decodeItems 0 [.null]).2 ++ ⟨called, message⟩ :: (decodeItems 2 [.null]).2) := by
  have hfits : ¬ Fits wordVersion := by
    intro h
    simpa [wordVersion, lookup?] using h.apiVersion
  have hsame : SameMembers wordVersion (("order", .bool true) :: wordVersion) :=
    ⟨rfl, rfl, rfl, .same none⟩
  obtain ⟨-, -, hunseen, hplaced⟩ := object_item_decoded wordVersion
  exact ⟨hfits, hunseen _ hsame, (hplaced [.null] [.null]).2 hfits⟩

end ThemeBlocks.Cms

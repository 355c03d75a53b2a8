import Mathlib.Data.List.Forall2
import Mathlib.Data.List.Nodup
import ThemeBlocks.Proofs.Text.ByteOrder
import ThemeBlocks.Schema.Download

/-! The names of the block types in a schema. A schema is any JSON value; a name is found at a place if
the type there is the block interface, its possible types are a list, and the item there has a text for
a name. Every name that is found is listed once for each place, in the order of the bytes, and neither
the order of the two kinds of lists nor what else stands in them makes a difference. -/

namespace ThemeBlocks.Schema

open Json (Value)

/-- A name, with the places of its type and of itself among the possible types. -/
structure Place where
  type : Nat
  possible : Nat
  name : String
  deriving DecidableEq

def item? (index : Nat) : Value → Option Value
  | .array items => items[index]?
  | _ => none

def typesAt? (schema : Value) : Option Value :=
  (schema.member? "__schema").bind (Value.member? "types")

def typeAt? (schema : Value) (index : Nat) : Option Value :=
  (typesAt? schema).bind (item? index)

structure Place.IsIn (schema : Value) (place : Place) : Prop where
  interface : (typeAt? schema place.type).bind (Value.member? "name") = some (.string "EditorBlock")
  named : (((typeAt? schema place.type).bind (Value.member? "possibleTypes")).bind
    (item? place.possible)).bind (Value.member? "name") = some (.string place.name)

theorem nameOf?_eq_some_iff {type : Value} {name : String} :
    nameOf? type = some name ↔ type.member? "name" = some (.string name) := by
  unfold nameOf?
  rw [Option.bind_eq_some_iff]
  constructor
  · rintro ⟨value, hvalue, hname⟩
    cases value <;> cases hname
    exact hvalue
  · intro h
    exact ⟨_, h, rfl⟩

theorem isBlockInterface_iff {type : Value} :
    isBlockInterface type ↔ type.member? "name" = some (.string "EditorBlock") := by
  rw [isBlockInterface, decide_eq_true_iff, nameOf?_eq_some_iff]

theorem typesOf_getElem?_eq (schema : Value) (index : Nat) :
    (typesOf schema)[index]? = typeAt? schema index := by
  unfold typesOf typeAt? typesAt?
  cases (schema.member? "__schema").bind (Value.member? "types") with
  | none => rfl
  | some types => cases types <;> rfl

def possibleOf (type : Value) : List Value :=
  match type.member? "possibleTypes" with
  | some (.array items) => items
  | _ => []

theorem possibleOf_getElem?_eq (type : Value) (index : Nat) :
    (possibleOf type)[index]? = (type.member? "possibleTypes").bind (item? index) := by
  unfold possibleOf
  cases type.member? "possibleTypes" with
  | none => rfl
  | some items => cases items <;> rfl

theorem possibleNames_eq (type : Value) : possibleNames type = (possibleOf type).filterMap nameOf? := by
  unfold possibleNames possibleOf
  cases type.member? "possibleTypes" with
  | none => rfl
  | some items => cases items <;> rfl

def placesIn (index : Nat) (type : Value) : List Place :=
  if isBlockInterface type then
    (possibleOf type).zipIdx.filterMap fun entry => (nameOf? entry.1).map (Place.mk index entry.2)
  else []

/-- The places among types of which the first one is at `start`. -/
def placesFrom (start : Nat) (types : List Value) : List Place :=
  (types.zipIdx start).flatMap fun entry => placesIn entry.2 entry.1

theorem mem_placesIn_iff {index : Nat} {type : Value} {place : Place} :
    place ∈ placesIn index type ↔ place.type = index ∧ isBlockInterface type ∧
      ((possibleOf type)[place.possible]?).bind nameOf? = some place.name := by
  obtain ⟨typeIndex, possible, name⟩ := place
  unfold placesIn
  by_cases hinterface : isBlockInterface type
  · rw [if_pos hinterface, List.mem_filterMap]
    constructor
    · rintro ⟨⟨item, position⟩, hitem, hname⟩
      obtain ⟨found, hfound, hplace⟩ := Option.map_eq_some_iff.1 hname
      cases hplace
      rw [List.mk_mem_zipIdx_iff_getElem?] at hitem
      exact ⟨rfl, hinterface, Option.bind_eq_some_iff.2 ⟨item, hitem, hfound⟩⟩
    · rintro ⟨rfl, -, hnamed⟩
      obtain ⟨item, hitem, hname⟩ := Option.bind_eq_some_iff.1 hnamed
      exact ⟨(item, possible), List.mk_mem_zipIdx_iff_getElem?.2 hitem,
        Option.map_eq_some_iff.2 ⟨name, hname, rfl⟩⟩
  · simp [hinterface]

theorem mem_placesFrom_iff {start : Nat} {types : List Value} {place : Place} :
    place ∈ placesFrom start types ↔ ∃ type, start ≤ place.type ∧
      types[place.type - start]? = some type ∧ place ∈ placesIn place.type type := by
  unfold placesFrom
  rw [List.mem_flatMap]
  constructor
  · rintro ⟨⟨type, index⟩, htype, hplace⟩
    obtain rfl := (mem_placesIn_iff.1 hplace).1
    rw [List.mk_mem_zipIdx_iff_le_and_getElem?_sub] at htype
    exact ⟨type, htype.1, htype.2, hplace⟩
  · rintro ⟨type, hstart, htype, hplace⟩
    exact ⟨(type, place.type), List.mk_mem_zipIdx_iff_le_and_getElem?_sub.2 ⟨hstart, htype⟩, hplace⟩

theorem pairwise_zipIdx_ne {α : Type} (xs : List α) (start : Nat) :
    (xs.zipIdx start).Pairwise fun entry other => entry.2 ≠ other.2 := by
  rw [← List.pairwise_map (f := Prod.snd), List.zipIdx_map_snd]
  exact List.nodup_range'

theorem nodup_placesIn (index : Nat) (type : Value) : (placesIn index type).Nodup := by
  unfold placesIn
  split
  · refine List.pairwise_filterMap.2 ((pairwise_zipIdx_ne _ 0).imp ?_)
    intro entry other hne place hplace place' hplace' heq
    obtain ⟨name, -, rfl⟩ := Option.map_eq_some_iff.1 hplace
    obtain ⟨name', -, rfl⟩ := Option.map_eq_some_iff.1 hplace'
    exact hne (Place.mk.inj heq).2.1
  · exact List.nodup_nil

theorem nodup_placesFrom (start : Nat) (types : List Value) : (placesFrom start types).Nodup := by
  refine List.pairwise_flatMap.2 ⟨fun entry _ => nodup_placesIn entry.2 entry.1, ?_⟩
  refine (pairwise_zipIdx_ne types start).imp fun {entry other} hne place hplace place' hplace' heq => ?_
  rw [← (mem_placesIn_iff.1 hplace).1, ← (mem_placesIn_iff.1 hplace').1, heq] at hne
  exact hne rfl

def toldBy (type : Value) : List String :=
  if isBlockInterface type then possibleNames type else []

theorem flatMap_toldBy_eq (types : List Value) :
    types.flatMap toldBy = (types.filter isBlockInterface).flatMap possibleNames := by
  induction types with
  | nil => rfl
  | cons type types ih => by_cases h : isBlockInterface type <;> simp [toldBy, h, ih]

theorem map_name_placesIn (index : Nat) (type : Value) :
    (placesIn index type).map Place.name = toldBy type := by
  unfold placesIn toldBy
  split
  · rw [List.map_filterMap, possibleNames_eq]
    have hname : (fun entry : Value × Nat =>
        ((nameOf? entry.1).map (Place.mk index entry.2)).map Place.name) = nameOf? ∘ Prod.fst := by
      funext entry
      cases h : nameOf? entry.1 <;> simp [h]
    rw [hname, ← List.filterMap_map, List.zipIdx_map_fst]
  · rfl

theorem map_name_placesFrom (start : Nat) (types : List Value) :
    (placesFrom start types).map Place.name = types.flatMap toldBy := by
  unfold placesFrom
  simp only [List.map_flatMap, map_name_placesIn]
  rw [← List.flatMap_map Prod.fst toldBy, List.zipIdx_map_fst]

theorem blockTypes_perm (schema : Value) :
    (blockTypes schema).Perm ((typesOf schema).flatMap toldBy) := by
  rw [flatMap_toldBy_eq]
  exact List.mergeSort_perm _ _

theorem pairwise_blockTypes (schema : Value) : (blockTypes schema).Pairwise (· ≤ ·) := by
  have hsorted : (blockTypes schema).Pairwise fun a b => decide (a ≤ b) = true := by
    apply List.pairwise_mergeSort
    · intro a b c hab hbc
      simpa using String.le_trans (of_decide_eq_true hab) (of_decide_eq_true hbc)
    · intro a b
      simpa using String.le_total a b
  exact hsorted.imp of_decide_eq_true

theorem blockTypes_eq_of_perm {schema other : Value}
    (h : ((typesOf schema).flatMap toldBy).Perm ((typesOf other).flatMap toldBy)) :
    blockTypes schema = blockTypes other :=
  List.Perm.eq_of_pairwise (fun _ _ _ _ => String.le_antisymm) (pairwise_blockTypes schema)
    (pairwise_blockTypes other) (((blockTypes_perm schema).trans h).trans (blockTypes_perm other).symm)

/-- The other values are the listed ones in any order, with strays among them. -/
def Scattered (Stray : Value → Prop) (listed others : List Value) : Prop :=
  ∃ strays, (∀ stray ∈ strays, Stray stray) ∧ others.Perm (listed ++ strays)

def IsNameless (value : Value) : Prop :=
  ∀ name, value.member? "name" ≠ some (.string name)

/-- The type is not the block interface, or has no list of possible types. -/
def TellsNothing (type : Value) : Prop :=
  type.member? "name" ≠ some (.string "EditorBlock") ∨
    ∀ items, type.member? "possibleTypes" ≠ some (.array items)

/-- The two types are one but for the order of their possible types and nameless ones among them. -/
inductive Resembles : Value → Value → Prop
  | same (type : Value) : Resembles type type
  | scattered {type other : Value} {items others : List Value} :
      other.member? "name" = type.member? "name" →
      type.member? "possibleTypes" = some (.array items) →
      other.member? "possibleTypes" = some (.array others) →
      Scattered IsNameless items others → Resembles type other

/-- The other schema has the types of the first one in any order, each with its possible types in any
order, and may have strays in both kinds of lists. -/
def Rearranges (schema other : Value) : Prop :=
  ∃ types middle others, typesAt? schema = some (.array types) ∧ List.Forall₂ Resembles types middle ∧
    Scattered TellsNothing middle others ∧ typesAt? other = some (.array others)

theorem typesOf_of_typesAt? {schema : Value} {types : List Value}
    (h : typesAt? schema = some (.array types)) : typesOf schema = types := by
  unfold typesOf
  rw [show (schema.member? "__schema").bind (Value.member? "types") = _ from h]

theorem filterMap_nameOf?_perm_of_scattered {items others : List Value}
    (h : Scattered IsNameless items others) :
    (items.filterMap nameOf?).Perm (others.filterMap nameOf?) := by
  obtain ⟨strays, hstrays, hperm⟩ := h
  have hnone : strays.filterMap nameOf? = [] := by
    rw [List.filterMap_eq_nil_iff]
    intro stray hstray
    rw [Option.eq_none_iff_forall_not_mem]
    exact fun name hname => hstrays stray hstray name (nameOf?_eq_some_iff.1 hname)
  have hnames := hperm.filterMap nameOf?
  rw [List.filterMap_append, hnone, List.append_nil] at hnames
  exact hnames.symm

theorem toldBy_perm_of_resembles {type other : Value} (h : Resembles type other) :
    (toldBy type).Perm (toldBy other) := by
  cases h with
  | same => exact .refl _
  | scattered hname hitems hothers hscattered =>
    have hinterface : isBlockInterface other = isBlockInterface type := by
      rw [isBlockInterface, isBlockInterface, nameOf?, nameOf?, hname]
    unfold toldBy
    rw [hinterface, possibleNames_eq, possibleNames_eq, possibleOf, possibleOf, hitems, hothers]
    split
    · exact filterMap_nameOf?_perm_of_scattered hscattered
    · exact .refl _

theorem toldBy_eq_nil {type : Value} (h : TellsNothing type) : toldBy type = [] := by
  unfold toldBy
  split
  · next hinterface =>
    rw [isBlockInterface_iff] at hinterface
    rw [possibleNames_eq, possibleOf]
    split
    · next items hitems =>
      rcases h with hname | hlist
      · exact absurd hinterface hname
      · exact absurd hitems (hlist items)
    · rfl
  · rfl

theorem flatMap_toldBy_perm_of_resembles {types others : List Value}
    (h : List.Forall₂ Resembles types others) :
    (types.flatMap toldBy).Perm (others.flatMap toldBy) := by
  induction h with
  | nil => exact .refl _
  | cons htype _ ih => exact (toldBy_perm_of_resembles htype).append ih

theorem flatMap_toldBy_perm_of_scattered {types others : List Value}
    (h : Scattered TellsNothing types others) :
    (types.flatMap toldBy).Perm (others.flatMap toldBy) := by
  obtain ⟨strays, hstrays, hperm⟩ := h
  have hnone : strays.flatMap toldBy = [] :=
    List.flatMap_eq_nil_iff.2 fun stray hstray => toldBy_eq_nil (hstrays stray hstray)
  have hnames := hperm.flatMap_right toldBy
  rw [List.flatMap_append, hnone, List.append_nil] at hnames
  exact hnames.symm

theorem blockTypes_of_rearranges {schema other : Value} (h : Rearranges schema other) :
    blockTypes other = blockTypes schema := by
  obtain ⟨types, middle, others, htypes, hresembles, hscattered, hothers⟩ := h
  symm
  apply blockTypes_eq_of_perm
  rw [typesOf_of_typesAt? htypes, typesOf_of_typesAt? hothers]
  exact (flatMap_toldBy_perm_of_resembles hresembles).trans
    (flatMap_toldBy_perm_of_scattered hscattered)

theorem mem_placesFrom_iff_isIn {schema : Value} {place : Place} :
    place ∈ placesFrom 0 (typesOf schema) ↔ place.IsIn schema := by
  rw [mem_placesFrom_iff]
  simp only [Nat.zero_le, true_and, Nat.sub_zero, typesOf_getElem?_eq, mem_placesIn_iff,
    isBlockInterface_iff, possibleOf_getElem?_eq]
  constructor
  · rintro ⟨type, htype, hinterface, hnamed⟩
    obtain ⟨item, hitem, hname⟩ := Option.bind_eq_some_iff.1 hnamed
    constructor
    · rw [htype]
      exact hinterface
    · rw [htype, Option.bind_some, hitem]
      exact nameOf?_eq_some_iff.1 hname
  · rintro ⟨hinterface, hnamed⟩
    obtain ⟨type, htype, hname⟩ := Option.bind_eq_some_iff.1 hinterface
    obtain ⟨item, hitem, hitemName⟩ := Option.bind_eq_some_iff.1 hnamed
    rw [htype, Option.bind_some] at hitem
    exact ⟨type, htype, hname,
      Option.bind_eq_some_iff.2 ⟨item, hitem, nameOf?_eq_some_iff.2 hitemName⟩⟩

/-- Every name that is found at a place of the schema is listed, once for each place, and nothing else
is; the list ascends in the order of the bytes. A rearranged schema has the same list. -/
theorem blockTypes_listed (schema : Value) :
    (blockTypes schema).Pairwise (fun a b => Text.bytesOf a ≤ Text.bytesOf b) ∧
      (∃ places : List Place, places.Nodup ∧ (∀ place, place ∈ places ↔ place.IsIn schema) ∧
        (blockTypes schema).Perm (places.map Place.name)) ∧
      ∀ other, Rearranges schema other → blockTypes other = blockTypes schema := by
  refine ⟨(pairwise_blockTypes schema).imp Text.bytesOf_le_iff.2, ?_, fun _ => blockTypes_of_rearranges⟩
  refine ⟨placesFrom 0 (typesOf schema), nodup_placesFrom 0 _, fun _ => mem_placesFrom_iff_isIn, ?_⟩
  rw [map_name_placesFrom]
  exact blockTypes_perm schema

def schemaOf (types : List Value) : Value :=
  .object [("__schema", .object [("types", .array types)])]

def interfaceOf (possible : List Value) : Value :=
  .object [("name", .string "EditorBlock"), ("possibleTypes", .array possible)]

def heroAndParagraph : List Value :=
  [.object [("name", .string "AcfHero")], .object [("name", .string "CoreParagraph")]]

def untidySchema : Value :=
  schemaOf [.object [("name", .string "Page")], interfaceOf (.null :: heroAndParagraph.reverse)]

theorem blockTypes_listed_untidy :
    Rearranges (schemaOf [interfaceOf heroAndParagraph]) untidySchema ∧
      blockTypes untidySchema = blockTypes (schemaOf [interfaceOf heroAndParagraph]) := by
  have hitems : Scattered IsNameless heroAndParagraph (.null :: heroAndParagraph.reverse) :=
    ⟨[.null], by simp [IsNameless, Value.member?], List.reverse_perm (heroAndParagraph ++ [Value.null])⟩
  have hresembles : Resembles (interfaceOf heroAndParagraph)
      (interfaceOf (.null :: heroAndParagraph.reverse)) := .scattered rfl rfl rfl hitems
  have hrearranges : Rearranges (schemaOf [interfaceOf heroAndParagraph]) untidySchema := by
    refine ⟨_, _, _, rfl, .cons hresembles .nil, ⟨[.object [("name", .string "Page")]], ?_, ?_⟩, rfl⟩
    · simp [TellsNothing, Value.member?, Json.lookup?]
    · exact List.reverse_perm [_, _]
  exact ⟨hrearranges, (blockTypes_listed _).2.2 _ hrearranges⟩

end ThemeBlocks.Schema

import ThemeBlocks.Cms.Snapshot
import ThemeBlocks.Proofs.Results

/-! Which entries are collections. An entry is tested first and taken apart afterwards, by code of its
own. The two agree: what passes the test has a list under `nodes`, and no element of it is refused. -/

namespace ThemeBlocks.Cms

open Json

def members? : Value → Option (List (String × Value))
  | .object members => some members
  | _ => none

def collectionNodes? (entry : Value) : Option (List (List (String × Value))) :=
  match entry.member? "nodes" with
  | some (.array items) => items.mapM members?
  | _ => none

theorem members?_eq_some_iff {value : Value} {members : List (String × Value)} :
    members? value = some members ↔ value = .object members := by
  cases value <;> simp [members?]

theorem mapM_members?_eq_some_iff {items : List Value} {nodes : List (List (String × Value))} :
    items.mapM members? = some nodes ↔ items = nodes.map Value.object := by
  induction items generalizing nodes with
  | nil => cases nodes <;> simp
  | cons item items ih =>
    cases nodes with
    | nil => simp [Option.bind_eq_some_iff]
    | cons node nodes => simp [Option.bind_eq_some_iff, members?_eq_some_iff, ih]

theorem collectionNodes?_eq_some_iff {entry : Value} {nodes : List (List (String × Value))} :
    collectionNodes? entry = some nodes ↔
      entry.member? "nodes" = some (.array (nodes.map Value.object)) := by
  unfold collectionNodes?
  split
  · next items hitems => simp [hitems, mapM_members?_eq_some_iff]
  · next hother => simpa using hother _

theorem isObject_iff {value : Value} : value.isObject ↔ ∃ members, value = .object members := by
  cases value <;> simp [Value.isObject]

theorem exists_map_object_iff {items : List Value} :
    (∃ nodes : List (List (String × Value)), items = nodes.map Value.object) ↔
      ∀ item ∈ items, item.isObject := by
  induction items with
  | nil => exact ⟨fun _ item hitem => absurd hitem (by simp), fun _ => ⟨[], rfl⟩⟩
  | cons item items ih =>
    rw [List.forall_mem_cons, ← ih, isObject_iff]
    constructor
    · rintro ⟨nodes, hnodes⟩
      cases nodes with
      | nil => cases hnodes
      | cons members nodes =>
        obtain ⟨hitem, hitems⟩ := List.cons_eq_cons.1 hnodes
        exact ⟨⟨members, hitem⟩, nodes, hitems⟩
    · rintro ⟨⟨members, rfl⟩, nodes, rfl⟩
      exact ⟨members :: nodes, rfl⟩

/-- The test is passed by what can be taken apart. -/
theorem isCollection_iff {entry : Value} :
    isCollection entry ↔ ∃ nodes, collectionNodes? entry = some nodes := by
  simp only [collectionNodes?_eq_some_iff]
  unfold isCollection
  cases hnodes : entry.member? "nodes" with
  | none => simp
  | some value =>
    cases value with
    | array items =>
      have hall := @exists_map_object_iff items
      simpa [Value.items?] using hall.symm
    | null => simp [Value.items?]
    | bool value => simp [Value.items?]
    | number value => simp [Value.items?]
    | string value => simp [Value.items?]
    | object members => simp [Value.items?]

theorem isCollection_of_some {entry : Value} {nodes : List (List (String × Value))}
    (h : collectionNodes? entry = some nodes) : isCollection entry :=
  isCollection_iff.2 ⟨nodes, h⟩

theorem isCollection_of_none {entry : Value} (h : collectionNodes? entry = none) :
    isCollection entry = false := by
  rw [Bool.eq_false_iff]
  intro hcollection
  obtain ⟨nodes, hnodes⟩ := isCollection_iff.1 hcollection
  rw [h] at hnodes
  cases hnodes

theorem nodesOf_of_some {entry : Value} {nodes : List (List (String × Value))}
    (h : collectionNodes? entry = some nodes) : nodesOf entry = .array (nodes.map Value.object) := by
  rw [collectionNodes?_eq_some_iff] at h
  cases entry with
  | object members =>
    change (lookup? "nodes" members).getD .null = _
    rw [show lookup? "nodes" members = _ from h]
    rfl
  | null => cases h
  | bool value => cases h
  | number value => cases h
  | string value => cases h
  | array items => cases h

theorem decodeElements_object {collection : String} {index : Nat} {rest : List Value}
    {nodes : List ContentNode} {more : List Warning} (members : List (String × Value))
    (hrest : decodeElements collection (index + 1) rest = .ok (nodes, more)) :
    decodeElements collection index (.object members :: rest) =
      .ok ((decodeNode collection index members).1 :: nodes,
        (decodeNode collection index members).2 ++ more) := by
  rw [decodeElements, decodeElement, bind_of_ok rfl]
  exact bind_of_ok hrest

namespace Snapshot

variable {key : String} {entry : Value} {rest : List (String × Value)} {snapshot : Snapshot}
  {more : List Warning}

theorem decodeEntries_collection {elements : List (List (String × Value))} {nodes : List ContentNode}
    {warnings : List Warning} (hentry : collectionNodes? entry = some elements)
    (hnodes : decodeElements key 0 (elements.map Value.object) = .ok (nodes, warnings))
    (hrest : decodeEntries rest = .ok (snapshot, more)) :
    decodeEntries ((key, entry) :: rest) =
      .ok ({ snapshot with collections := (key, nodes) :: snapshot.collections },
        warnings ++ more) := by
  rw [decodeEntries, if_pos (isCollection_of_some hentry), nodesOf_of_some hentry]
  change (decodeElements key 0 _ >>= _) = _
  rw [bind_of_ok hnodes]
  exact bind_of_ok hrest

theorem decodeEntries_other (hentry : collectionNodes? entry = none)
    (hrest : decodeEntries rest = .ok (snapshot, more)) :
    decodeEntries ((key, entry) :: rest) =
      .ok ({ snapshot with other := (key, entry) :: snapshot.other }, more) := by
  rw [decodeEntries, if_neg (by simp [isCollection_of_none hentry])]
  exact bind_of_ok hrest

end Snapshot

end ThemeBlocks.Cms

import Mathlib.Data.List.Basic
import Mathlib.Data.String.Basic
import ThemeBlocks.Json.Reader
import ThemeBlocks.Proofs.Json.Numbers
import ThemeBlocks.Proofs.Results

/-! JSON texts as they stand. A tree has every member of an object in its place, also where keys are
equal, and no limit on its brackets. A value that is parsed is the tree of its text with the members
sorted, the last of equal keys winning; so its keys differ, and its integers have at most 64 bits. -/

namespace ThemeBlocks.Json

open Text

namespace Value

@[induction_eliminator]
theorem induction {motive : Value → Prop} (null : motive .null) (bool : ∀ value, motive (.bool value))
    (number : ∀ value, motive (.number value)) (string : ∀ value, motive (.string value))
    (array : ∀ items, (∀ item ∈ items, motive item) → motive (.array items))
    (object : ∀ members, (∀ member ∈ members, motive member.2) → motive (.object members))
    (value : Value) : motive value :=
  @Value.rec motive (fun items => ∀ item ∈ items, motive item)
    (fun members => ∀ member ∈ members, motive member.2) (fun member => motive member.2)
    null bool number string array object (by simp)
    (fun _ _ head tail => List.forall_mem_cons.2 ⟨head, tail⟩) (by simp)
    (fun _ _ head tail => List.forall_mem_cons.2 ⟨head, tail⟩) (fun _ _ value => value) value

inductive Within (part : Value) : Value → Prop
  | self : Within part part
  | item {items : List Value} {item : Value} : item ∈ items → Within part item →
      Within part (.array items)
  | member {members : List (String × Value)} {member : String × Value} : member ∈ members →
      Within part member.2 → Within part (.object members)

def Everywhere (p : Value → Prop) (value : Value) : Prop :=
  ∀ part, Within part value → p part

variable {p q : Value → Prop}

theorem Everywhere.here {value : Value} (h : Everywhere p value) : p value :=
  h value .self

theorem Everywhere.mono {value : Value} (hpq : ∀ part, p part → q part) (h : Everywhere p value) :
    Everywhere q value :=
  fun part hpart => hpq part (h part hpart)

theorem everywhere_and_iff {value : Value} :
    Everywhere (fun part => p part ∧ q part) value ↔ Everywhere p value ∧ Everywhere q value :=
  ⟨fun h => ⟨h.mono fun _ => And.left, h.mono fun _ => And.right⟩,
    fun h part hpart => ⟨h.1 part hpart, h.2 part hpart⟩⟩

@[simp] theorem everywhere_array_iff {items : List Value} :
    Everywhere p (.array items) ↔ p (.array items) ∧ ∀ item ∈ items, Everywhere p item := by
  constructor
  · exact fun h => ⟨h.here, fun item hitem part hpart => h part (.item hitem hpart)⟩
  · rintro ⟨hself, hitems⟩ part hpart
    cases hpart with
    | self => exact hself
    | item hitem hpart => exact hitems _ hitem part hpart

@[simp] theorem everywhere_object_iff {members : List (String × Value)} :
    Everywhere p (.object members) ↔
      p (.object members) ∧ ∀ member ∈ members, Everywhere p member.2 := by
  constructor
  · exact fun h => ⟨h.here, fun member hmember part hpart => h part (.member hmember hpart)⟩
  · rintro ⟨hself, hmembers⟩ part hpart
    cases hpart with
    | self => exact hself
    | member hmember hpart => exact hmembers _ hmember part hpart

def isScalar : Value → Bool
  | .array _ | .object _ => false
  | _ => true

theorem everywhere_scalar_iff {value : Value} (hscalar : value.isScalar) :
    Everywhere p value ↔ p value := by
  refine ⟨Everywhere.here, fun h part hpart => ?_⟩
  cases hpart with
  | self => exact h
  | item _ _ => cases hscalar
  | member _ _ => cases hscalar

@[simp] theorem everywhere_null_iff : Everywhere p .null ↔ p .null :=
  everywhere_scalar_iff rfl

@[simp] theorem everywhere_bool_iff {b : Bool} : Everywhere p (.bool b) ↔ p (.bool b) :=
  everywhere_scalar_iff rfl

@[simp] theorem everywhere_number_iff {n : Number} : Everywhere p (.number n) ↔ p (.number n) :=
  everywhere_scalar_iff rfl

@[simp] theorem everywhere_string_iff {text : String} :
    Everywhere p (.string text) ↔ p (.string text) :=
  everywhere_scalar_iff rfl

end Value

mutual

def readTree : Nat → Source → Except Failure (Value × Source)
  | 0, source => fail (.here .endInValue source)
  | fuel + 1, source =>
    match skipBlanks source with
    | [] => fail (.here .endInValue [])
    | .char 'n' :: rest => do
      let rest ← scanWord ['u', 'l', 'l'] rest
      .ok (.null, rest)
    | .char 't' :: rest => do
      let rest ← scanWord ['r', 'u', 'e'] rest
      .ok (.bool true, rest)
    | .char 'f' :: rest => do
      let rest ← scanWord ['a', 'l', 's', 'e'] rest
      .ok (.bool false, rest)
    | .char '"' :: rest => do
      let (text, rest) ← scanString rest
      .ok (.string text, rest)
    | .char '[' :: rest => do
      let (items, rest) ← readTreeItems fuel true rest
      .ok (.array items, rest)
    | .char '{' :: rest => do
      let (members, rest) ← readTreeMembers fuel true rest
      .ok (.object members, rest)
    | symbol :: rest =>
      if symbol = .char '-' ∨ (digitOf? symbol).isSome then do
        let (number, rest) ← scanNumber (symbol :: rest)
        .ok (.number number, rest)
      else fail (.next .expectedValue (symbol :: rest))

def readTreeItems : Nat → Bool → Source → Except Failure (List Value × Source)
  | 0, _, source => fail (.here .endInList source)
  | fuel + 1, first, source => do
    match ← nextItem first source with
    | none => .ok ([], (skipBlanks source).drop 1)
    | some rest =>
      let (item, rest) ← readTree fuel rest
      let (items, rest) ← readTreeItems fuel false rest
      .ok (item :: items, rest)

def readTreeMembers : Nat → Bool → Source → Except Failure (List (String × Value) × Source)
  | 0, _, source => fail (.here .endInObject source)
  | fuel + 1, first, source => do
    match ← nextKey first source with
    | none => .ok ([], (skipBlanks source).drop 1)
    | some rest =>
      let (key, rest) ← scanString rest
      let rest ← afterColon rest
      let (value, rest) ← readTree fuel rest
      let (members, rest) ← readTreeMembers fuel false rest
      .ok ((key, value) :: members, rest)

end

/-- The value that a text spells, every member in its place. -/
def treeOf (text : String) : Except Failure Value := do
  let source := Source.ofText text
  let (value, rest) ← readTree (stepsFor source) source
  atEnd rest
  .ok value

namespace Value

mutual

/-- The value with the members of its objects sorted, the last of equal keys winning. -/
def merged : Value → Value
  | .array items => .array (mergedItems items)
  | .object members => .object (sortMembers (mergedMembers members))
  | value => value
termination_by structural value => value

def mergedItems : List Value → List Value
  | [] => []
  | item :: items => item.merged :: mergedItems items
termination_by structural items => items

def mergedMembers : List (String × Value) → List (String × Value)
  | [] => []
  | (key, value) :: members => (key, value.merged) :: mergedMembers members
termination_by structural members => members

end

end Value

open Value (merged mergedItems mergedMembers)

section Agreement

variable {fuel : Nat}

/-- With this much fuel, whatever is read as a value is a merged tree: the bracket limit only refuses. -/
def ValuesAgree (fuel : Nat) : Prop :=
  ∀ room source value rest, readValue fuel room source = .ok (value, rest) →
    ∃ tree : Value, readTree fuel source = .ok (tree, rest) ∧ value = tree.merged

def ItemsAgree (fuel : Nat) : Prop :=
  ∀ room first source items rest, readItems fuel room first source = .ok (items, rest) →
    ∃ trees, readTreeItems fuel first source = .ok (trees, rest) ∧ items = mergedItems trees

def MembersAgree (fuel : Nat) : Prop :=
  ∀ room first source members rest, readMembers fuel room first source = .ok (members, rest) →
    ∃ trees, readTreeMembers fuel first source = .ok (trees, rest) ∧ members = mergedMembers trees

theorem valuesAgree_succ (hitems : ItemsAgree fuel) (hmembers : MembersAgree fuel) :
    ValuesAgree (fuel + 1) := by
  intro room source value rest h
  rw [readValue] at h
  rw [readTree]
  generalize skipBlanks source = source at h
  split at h
  · cases h
  · obtain ⟨tail, hword, ⟨⟩⟩ := exists_ok_of_bind h
    exact ⟨.null, bind_of_ok hword, rfl⟩
  · obtain ⟨tail, hword, ⟨⟩⟩ := exists_ok_of_bind h
    exact ⟨.bool true, bind_of_ok hword, rfl⟩
  · obtain ⟨tail, hword, ⟨⟩⟩ := exists_ok_of_bind h
    exact ⟨.bool false, bind_of_ok hword, rfl⟩
  · obtain ⟨⟨text, tail⟩, htext, ⟨⟩⟩ := exists_ok_of_bind h
    exact ⟨.string text, bind_of_ok htext, rfl⟩
  · obtain ⟨room, -, h⟩ := exists_ok_of_bind h
    obtain ⟨⟨items, tail⟩, hread, ⟨⟩⟩ := exists_ok_of_bind h
    obtain ⟨trees, htrees, rfl⟩ := hitems _ _ _ _ _ hread
    exact ⟨.array trees, bind_of_ok htrees, rfl⟩
  · obtain ⟨room, -, h⟩ := exists_ok_of_bind h
    obtain ⟨⟨members, tail⟩, hread, ⟨⟩⟩ := exists_ok_of_bind h
    obtain ⟨trees, htrees, rfl⟩ := hmembers _ _ _ _ _ hread
    exact ⟨.object trees, bind_of_ok htrees, rfl⟩
  · split at h
    · next hhead =>
      obtain ⟨⟨number, tail⟩, hnumber, ⟨⟩⟩ := exists_ok_of_bind h
      exact ⟨.number number, by simp only [if_pos hhead, bind_of_ok hnumber], rfl⟩
    · cases h

theorem itemsAgree_succ (hvalues : ValuesAgree fuel) (hitems : ItemsAgree fuel) :
    ItemsAgree (fuel + 1) := by
  intro room first source items rest h
  rw [readItems] at h
  rw [readTreeItems]
  obtain ⟨next, hnext, h⟩ := exists_ok_of_bind h
  rw [bind_of_ok hnext]
  cases next with
  | none =>
    cases h
    exact ⟨[], rfl, rfl⟩
  | some source =>
    obtain ⟨⟨item, tail⟩, hitem, h⟩ := exists_ok_of_bind h
    obtain ⟨⟨items, tail⟩, hmore, ⟨⟩⟩ := exists_ok_of_bind h
    obtain ⟨tree, htree, rfl⟩ := hvalues _ _ _ _ hitem
    obtain ⟨trees, htrees, rfl⟩ := hitems _ _ _ _ _ hmore
    exact ⟨tree :: trees, (bind_of_ok htree).trans (bind_of_ok htrees), rfl⟩

theorem membersAgree_succ (hvalues : ValuesAgree fuel) (hmembers : MembersAgree fuel) :
    MembersAgree (fuel + 1) := by
  intro room first source members rest h
  rw [readMembers] at h
  rw [readTreeMembers]
  obtain ⟨next, hnext, h⟩ := exists_ok_of_bind h
  rw [bind_of_ok hnext]
  cases next with
  | none =>
    cases h
    exact ⟨[], rfl, rfl⟩
  | some source =>
    obtain ⟨⟨key, tail⟩, hkey, h⟩ := exists_ok_of_bind h
    obtain ⟨colon, hcolon, h⟩ := exists_ok_of_bind h
    obtain ⟨⟨value, tail⟩, hvalue, h⟩ := exists_ok_of_bind h
    obtain ⟨⟨members, tail⟩, hmore, ⟨⟩⟩ := exists_ok_of_bind h
    obtain ⟨tree, htree, rfl⟩ := hvalues _ _ _ _ hvalue
    obtain ⟨trees, htrees, rfl⟩ := hmembers _ _ _ _ _ hmore
    exact ⟨(key, tree) :: trees, (bind_of_ok hkey).trans <| (bind_of_ok hcolon).trans <|
      (bind_of_ok htree).trans (bind_of_ok htrees), rfl⟩

theorem readers_agree (fuel : Nat) : ValuesAgree fuel ∧ ItemsAgree fuel ∧ MembersAgree fuel := by
  -- The three readers call one another with less fuel, so one induction carries all three facts.
  induction fuel with
  | zero =>
    refine ⟨?_, ?_, ?_⟩
    · intro _ _ _ _ h
      cases h
    · intro _ _ _ _ _ h
      cases h
    · intro _ _ _ _ _ h
      cases h
  | succ fuel ih =>
    obtain ⟨hvalues, hitems, hmembers⟩ := ih
    exact ⟨valuesAgree_succ hitems hmembers, itemsAgree_succ hvalues hitems,
      membersAgree_succ hvalues hmembers⟩

end Agreement

theorem exists_treeOf_of_parse {text : String} {value : Value} (h : parse text = .ok value) :
    ∃ tree, treeOf text = .ok tree ∧ value = tree.merged := by
  simp only [parse] at h
  split at h
  · next read hread =>
    cases h
    obtain ⟨⟨value, rest⟩, hvalue, h⟩ := exists_ok_of_bind hread
    obtain ⟨⟨⟩, hend, ⟨⟩⟩ := exists_ok_of_bind h
    obtain ⟨tree, htree, rfl⟩ := (readers_agree _).1 _ _ _ _ hvalue
    exact ⟨tree, (bind_of_ok htree).trans (bind_of_ok hend), rfl⟩
  · cases h

namespace Value

def KeysDiffer : Value → Prop
  | .object members => (members.map (·.1)).Nodup
  | _ => True

def FitsWord : Value → Prop
  | .number (.int n) => IsWord n
  | _ => True

end Value

open Value (Everywhere FitsWord KeysDiffer everywhere_scalar_iff everywhere_array_iff
  everywhere_object_iff)

section Words

variable {fuel : Nat}

def TreesFit (fuel : Nat) : Prop :=
  ∀ source tree rest, readTree fuel source = .ok (tree, rest) → Everywhere FitsWord tree

def TreeItemsFit (fuel : Nat) : Prop :=
  ∀ first source trees rest, readTreeItems fuel first source = .ok (trees, rest) →
    ∀ tree ∈ trees, Everywhere FitsWord tree

def TreeMembersFit (fuel : Nat) : Prop :=
  ∀ first source trees rest, readTreeMembers fuel first source = .ok (trees, rest) →
    ∀ member ∈ trees, Everywhere FitsWord member.2

/-- What is read as a tree: a word or a text, a number, or what stands between two brackets. -/
inductive Spelled (fuel : Nat) (rest : Source) : Value → Prop
  | plain {tree : Value} : tree.isScalar → (∀ number, tree ≠ .number number) → Spelled fuel rest tree
  | number {source : Source} {number : Number} :
      scanNumber source = .ok (number, rest) → Spelled fuel rest (.number number)
  | array {source : Source} {items : List Value} :
      readTreeItems fuel true source = .ok (items, rest) → Spelled fuel rest (.array items)
  | object {source : Source} {members : List (String × Value)} :
      readTreeMembers fuel true source = .ok (members, rest) → Spelled fuel rest (.object members)

theorem spelled_of_readTree {source rest : Source} {tree : Value}
    (h : readTree (fuel + 1) source = .ok (tree, rest)) : Spelled fuel rest tree := by
  rw [readTree] at h
  split at h
  · cases h
  · obtain ⟨tail, -, ⟨⟩⟩ := exists_ok_of_bind h
    exact .plain rfl (by simp)
  · obtain ⟨tail, -, ⟨⟩⟩ := exists_ok_of_bind h
    exact .plain rfl (by simp)
  · obtain ⟨tail, -, ⟨⟩⟩ := exists_ok_of_bind h
    exact .plain rfl (by simp)
  · obtain ⟨⟨text, tail⟩, -, ⟨⟩⟩ := exists_ok_of_bind h
    exact .plain rfl (by simp)
  · obtain ⟨⟨items, tail⟩, hitems, ⟨⟩⟩ := exists_ok_of_bind h
    exact .array hitems
  · obtain ⟨⟨members, tail⟩, hmembers, ⟨⟩⟩ := exists_ok_of_bind h
    exact .object hmembers
  · split at h
    · obtain ⟨⟨number, tail⟩, hnumber, ⟨⟩⟩ := exists_ok_of_bind h
      exact .number hnumber
    · cases h

theorem treesFit_succ (hitems : TreeItemsFit fuel) (hmembers : TreeMembersFit fuel) :
    TreesFit (fuel + 1) := by
  intro source tree rest h
  cases spelled_of_readTree h with
  | plain hscalar hnumber =>
    refine (everywhere_scalar_iff hscalar).2 ?_
    cases tree with
    | number n => exact absurd rfl (hnumber n)
    | _ => trivial
  | @number source number hnumber =>
    refine (everywhere_scalar_iff rfl).2 ?_
    cases number with
    | int n => exact isWord_of_scanNumber hnumber
    | float bits => trivial
  | array hread => exact everywhere_array_iff.2 ⟨trivial, hitems _ _ _ _ hread⟩
  | object hread => exact everywhere_object_iff.2 ⟨trivial, hmembers _ _ _ _ hread⟩

theorem treeItemsFit_succ (htrees : TreesFit fuel) (hitems : TreeItemsFit fuel) :
    TreeItemsFit (fuel + 1) := by
  intro first source trees rest h
  rw [readTreeItems] at h
  obtain ⟨next, -, h⟩ := exists_ok_of_bind h
  cases next with
  | none =>
    cases h
    exact List.forall_mem_nil _
  | some source =>
    obtain ⟨⟨item, tail⟩, hitem, h⟩ := exists_ok_of_bind h
    obtain ⟨⟨items, tail⟩, hmore, ⟨⟩⟩ := exists_ok_of_bind h
    exact List.forall_mem_cons.2 ⟨htrees _ _ _ hitem, hitems _ _ _ _ hmore⟩

theorem treeMembersFit_succ (htrees : TreesFit fuel) (hmembers : TreeMembersFit fuel) :
    TreeMembersFit (fuel + 1) := by
  intro first source trees rest h
  rw [readTreeMembers] at h
  obtain ⟨next, -, h⟩ := exists_ok_of_bind h
  cases next with
  | none =>
    cases h
    exact List.forall_mem_nil _
  | some source =>
    obtain ⟨⟨key, tail⟩, -, h⟩ := exists_ok_of_bind h
    obtain ⟨colon, -, h⟩ := exists_ok_of_bind h
    obtain ⟨⟨value, tail⟩, hvalue, h⟩ := exists_ok_of_bind h
    obtain ⟨⟨members, tail⟩, hmore, ⟨⟩⟩ := exists_ok_of_bind h
    exact List.forall_mem_cons.2 ⟨htrees _ _ _ hvalue, hmembers _ _ _ _ hmore⟩

theorem trees_fit (fuel : Nat) : TreesFit fuel ∧ TreeItemsFit fuel ∧ TreeMembersFit fuel := by
  induction fuel with
  | zero =>
    refine ⟨?_, ?_, ?_⟩
    · intro _ _ _ h
      cases h
    · intro _ _ _ _ h
      cases h
    · intro _ _ _ _ h
      cases h
  | succ fuel ih =>
    obtain ⟨htrees, hitems, hmembers⟩ := ih
    exact ⟨treesFit_succ hitems hmembers, treeItemsFit_succ htrees hitems,
      treeMembersFit_succ htrees hmembers⟩

end Words

section Sorted

variable {α : Type}

theorem mem_insertSorted {key : String} {value : α} {members : List (String × α)}
    {member : String × α} (h : member ∈ insertSorted key value members) :
    member = (key, value) ∨ member ∈ members := by
  fun_induction insertSorted key value members <;> grind

theorem sorted_insertSorted {key : String} {value : α} {members : List (String × α)}
    (hsorted : (members.map (·.1)).Pairwise (· < ·)) :
    ((insertSorted key value members).map (·.1)).Pairwise (· < ·) := by
  induction members with
  | nil => simp [insertSorted]
  | cons member members ih =>
    obtain ⟨k, v⟩ := member
    obtain ⟨hhead, htail⟩ := List.pairwise_cons.1 hsorted
    rw [insertSorted]
    split
    · next heq =>
      subst heq
      exact List.pairwise_cons.2 ⟨hhead, htail⟩
    · next hne =>
      split
      · next hlt =>
        refine List.pairwise_cons.2 ⟨?_, hsorted⟩
        exact List.forall_mem_cons.2 ⟨hlt, fun other hother => hlt.trans (hhead other hother)⟩
      · next hge =>
        have hlt : k < key := lt_of_le_of_ne (not_lt.1 hge) (Ne.symm hne)
        refine List.pairwise_cons.2 ⟨fun other hother => ?_, ih htail⟩
        obtain ⟨member, hmember, rfl⟩ := List.mem_map.1 hother
        rcases mem_insertSorted hmember with rfl | hmember
        · exact hlt
        · exact hhead _ (List.mem_map_of_mem hmember)

theorem sorted_sortMembers (members : List (String × α)) :
    ((sortMembers members).map (·.1)).Pairwise (· < ·) :=
  List.foldlRecOn (motive := fun acc : List (String × α) => (acc.map (·.1)).Pairwise (· < ·)) members _
    List.Pairwise.nil fun _ hacc _ _ => sorted_insertSorted hacc

theorem mem_of_mem_sortMembers {member : String × α} {members : List (String × α)}
    (h : member ∈ sortMembers members) : member ∈ members :=
  List.foldlRecOn (motive := fun acc => ∀ m ∈ acc, m ∈ members) members _ (List.forall_mem_nil _)
    (fun _ hacc _ hadded m hm => (mem_insertSorted hm).elim (fun h => h ▸ hadded) (hacc m)) member h

end Sorted

theorem mergedItems_eq (items : List Value) : mergedItems items = items.map merged := by
  induction items with
  | nil => rfl
  | cons item items ih => rw [mergedItems, ih, List.map_cons]

theorem mergedMembers_eq (members : List (String × Value)) :
    mergedMembers members = members.map fun member => (member.1, member.2.merged) := by
  induction members with
  | nil => rfl
  | cons member members ih =>
    obtain ⟨key, value⟩ := member
    rw [mergedMembers, ih, List.map_cons]

theorem forall_merged_members {p : Value → Prop} {members : List (String × Value)}
    (h : ∀ member ∈ members, p member.2.merged) :
    ∀ member ∈ sortMembers (mergedMembers members), p member.2 := by
  intro member hmember
  have hmerged := mem_of_mem_sortMembers hmember
  rw [mergedMembers_eq] at hmerged
  obtain ⟨whole, hwhole, rfl⟩ := List.mem_map.1 hmerged
  exact h whole hwhole

theorem keysDiffer_merged (tree : Value) : Everywhere KeysDiffer tree.merged := by
  induction tree with
  | null => exact (everywhere_scalar_iff rfl).2 trivial
  | bool value => exact (everywhere_scalar_iff rfl).2 trivial
  | number value => exact (everywhere_scalar_iff rfl).2 trivial
  | string value => exact (everywhere_scalar_iff rfl).2 trivial
  | array items ih =>
    rw [merged, mergedItems_eq]
    exact everywhere_array_iff.2 ⟨trivial, List.forall_mem_map.2 ih⟩
  | object members ih =>
    rw [merged]
    refine everywhere_object_iff.2 ⟨?_, forall_merged_members ih⟩
    exact (sorted_sortMembers _).imp fun h => ne_of_lt h

theorem fitsWord_merged {tree : Value} (h : Everywhere FitsWord tree) :
    Everywhere FitsWord tree.merged := by
  induction tree with
  | null => exact h
  | bool value => exact h
  | number value => exact h
  | string value => exact h
  | array items ih =>
    rw [merged, mergedItems_eq]
    have hitems := (everywhere_array_iff.1 h).2
    exact everywhere_array_iff.2
      ⟨trivial, List.forall_mem_map.2 fun item hitem => ih item hitem (hitems item hitem)⟩
  | object members ih =>
    rw [merged]
    have hmembers := (everywhere_object_iff.1 h).2
    exact everywhere_object_iff.2
      ⟨trivial, forall_merged_members fun member hmember => ih member hmember (hmembers member hmember)⟩

/-- A value that was read has different keys in every object, and integers of at most 64 bits. -/
theorem sound_of_parse {text : String} {value : Value} (h : parse text = .ok value) :
    Everywhere KeysDiffer value ∧ Everywhere FitsWord value := by
  obtain ⟨tree, htree, rfl⟩ := exists_treeOf_of_parse h
  obtain ⟨⟨tree, rest⟩, hread, htree⟩ := exists_ok_of_bind htree
  obtain ⟨⟨⟩, -, ⟨⟩⟩ := exists_ok_of_bind htree
  exact ⟨keysDiffer_merged tree, fitsWord_merged ((trees_fit _).1 _ _ _ hread)⟩

end ThemeBlocks.Json

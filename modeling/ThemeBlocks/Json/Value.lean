/-! JSON values. Objects are kept as lists of members in the order in which they are written; the
reader sorts them. -/

namespace ThemeBlocks.Json

/-- A number is an integer of at most 64 bits or a double, given by its bits. -/
inductive Number
  | int (value : Int)
  | float (bits : UInt64)
  deriving Repr, DecidableEq, Inhabited

def Number.isZero : Number → Bool
  | .int value => value = 0
  | .float bits => bits.toNat % 0x8000000000000000 = 0

inductive Value
  | null
  | bool (value : Bool)
  | number (value : Number)
  | string (value : String)
  | array (items : List Value)
  | object (members : List (String × Value))
  deriving Repr, Inhabited, BEq

def lookup? {α : Type} (key : String) : List (String × α) → Option α
  | [] => none
  | (k, v) :: rest => if k = key then some v else lookup? key rest

theorem lookup?_eq_none_iff {α : Type} {key : String} {members : List (String × α)} :
    lookup? key members = none ↔ key ∉ members.map (·.1) := by
  induction members with
  | nil => simp [lookup?]
  | cons member members ih =>
    obtain ⟨k, v⟩ := member
    by_cases h : k = key
    · simp [lookup?, h]
    · simp [lookup?, h, ih, Ne.symm h]

theorem lookup?_of_mem {α : Type} {key : String} {value : α} {members : List (String × α)}
    (hkeys : (members.map (·.1)).Nodup) (h : (key, value) ∈ members) :
    lookup? key members = some value := by
  induction members with
  | nil => cases h
  | cons member members ih =>
    obtain ⟨k, v⟩ := member
    rw [List.map_cons, List.nodup_cons] at hkeys
    rcases List.mem_cons.1 h with hhead | htail
    · cases hhead
      simp [lookup?]
    · have hne : k ≠ key := by
        rintro rfl
        exact hkeys.1 (List.mem_map.2 ⟨_, htail, rfl⟩)
      simp [lookup?, hne, ih hkeys.2 htail]

/-- Adds a member to members that are sorted by key; the value of a key that is there is replaced. -/
def insertSorted {α : Type} (key : String) (value : α) : List (String × α) → List (String × α)
  | [] => [(key, value)]
  | (k, v) :: rest =>
    if key = k then (key, value) :: rest
    else if key < k then (key, value) :: (k, v) :: rest
    else (k, v) :: insertSorted key value rest

def sortMembers {α : Type} (members : List (String × α)) : List (String × α) :=
  members.foldl (fun acc member => insertSorted member.1 member.2 acc) []

namespace Value

def member? (key : String) : Value → Option Value
  | .object members => lookup? key members
  | _ => none

def text? : Value → Option String
  | .string value => some value
  | _ => none

def items? : Value → Option (List Value)
  | .array items => some items
  | _ => none

def isObject : Value → Bool
  | .object _ => true
  | _ => false

end Value

end ThemeBlocks.Json

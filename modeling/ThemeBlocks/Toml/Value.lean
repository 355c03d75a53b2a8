import ThemeBlocks.Decimal.Layout
import ThemeBlocks.Misfit

/-! TOML values, and tables while they are written. Tables keep the order in which their keys were first
written. A draft remembers how each table came to be, since that decides what may still be added to it:
a table may be opened by one header only, and dotted keys may add only to tables that dotted keys have
made. -/

namespace ThemeBlocks.Toml

inductive Value
  | text (value : String)
  | integer (value : Int)
  | float (bits : UInt64)
  | boolean (value : Bool)
  | moment (value : String)
  /-- A number that is well written but too large for any type. -/
  | excessive
  | array (items : List Value)
  | table (entries : List (String × Value))
  deriving Repr, Inhabited

/-- How an integer is called; one that fits no machine word is called by a wider type. -/
def integerFound (n : Int) : Found :=
  if WordRange.signed64.contains n || WordRange.unsigned64.contains n then .int n
  else
    .other ("integer `" ++ toString n ++ "` as " ++
      if WordRange.signed128.contains n then "i128" else "u128")

def Value.found : Value → Found
  | .text value => .string value
  | .integer value => integerFound value
  | .float bits => .float (Decimal.fullText bits)
  | .boolean value => .bool value
  | .moment _ | .table _ => .map
  | .excessive => .other "number"
  | .array _ => .sequence

inductive Origin
  /-- By a header of a table inside it. -/
  | implied
  | dotted
  | header
  deriving Repr, DecidableEq

inductive Draft
  /-- What can no longer be added to. -/
  | closed (value : Value)
  | table (origin : Origin) (entries : List (String × Draft))
  /-- The tables of a list, each opened by its own header. -/
  | tables (items : List (List (String × Draft)))

namespace Draft

abbrev Entries := List (String × Draft)

def find? (key : String) (entries : Entries) : Option Draft :=
  (entries.find? (·.1 = key)).map (·.2)

def put (key : String) (draft : Draft) : Entries → Entries
  | [] => [(key, draft)]
  | entry :: entries =>
    if entry.1 = key then (key, draft) :: entries else entry :: put key draft entries

def onLast {α : Type} (change : α → Option α) : List α → Option (List α)
  | [] => none
  | [item] => (change item).map ([·])
  | item :: items => (onLast change items).map (item :: ·)

/-- Changes the table at the end of a path of headers; missing tables on the way are implied. -/
def alongHeader (change : Entries → Option Entries) : List String → Entries → Option Entries
  | [], entries => change entries
  | key :: path, entries => do
    let draft ←
      match find? key entries with
      | none => (alongHeader change path []).map (.table .implied)
      | some (.table origin inner) => (alongHeader change path inner).map (.table origin)
      | some (.tables items) => (onLast (alongHeader change path) items).map .tables
      | some (.closed _) => none
    some (put key draft entries)

def assign (value : Value) : List String → Entries → Option Entries
  | [], _ => none
  | [key], entries =>
    if (find? key entries).isSome then none else some (entries ++ [(key, .closed value)])
  | key :: path, entries =>
    match find? key entries with
    | none => do some (entries ++ [(key, .table .dotted (← assign value path []))])
    | some (.table origin inner) =>
      if origin = .header ∨ (origin = .implied ∧ path.length = 1) then none
      else do some (put key (.table origin (← assign value path inner)) entries)
    | some _ => none

def without (key : String) (entries : Entries) : Entries :=
  entries.filter (·.1 ≠ key)

/-- Opens a table. One that was only implied keeps what is in it and moves to the end. -/
def openTable (key : String) (entries : Entries) : Option Entries :=
  match find? key entries with
  | none => some (entries ++ [(key, .table .header [])])
  | some (.table .implied inner) => some (without key entries ++ [(key, .table .header inner)])
  | some _ => none

def openItem (key : String) (entries : Entries) : Option Entries :=
  match find? key entries with
  | none => some (entries ++ [(key, .tables [[]])])
  | some (.tables items) => some (put key (.tables (items ++ [[]])) entries)
  | some _ => none

mutual

def toValue : Draft → Value
  | .closed value => value
  | .table _ entries => .table (valuesOf entries)
  | .tables items => .array (tablesOf items)

def valuesOf : List (String × Draft) → List (String × Value)
  | [] => []
  | (key, draft) :: entries => (key, draft.toValue) :: valuesOf entries

def tablesOf : List (List (String × Draft)) → List Value
  | [] => []
  | entries :: items => .table (valuesOf entries) :: tablesOf items

end

end Draft

end ThemeBlocks.Toml

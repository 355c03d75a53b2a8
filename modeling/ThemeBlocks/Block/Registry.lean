import ThemeBlocks.Block.Descriptor
import ThemeBlocks.Failure
import ThemeBlocks.Php.Literal

/-! The registry: a list of descriptors that has passed every check. Names and keys are checked block by
block, then block names against each other, then type names. A list is refused for the first check
that fails in this order. -/

namespace ThemeBlocks.Block

open Text

def isNameChar (c : Char) : Bool :=
  isAsciiLower c || isAsciiDigit c || c = '-' || c = '_'

/-- A block name is not empty, does not start with a dash and has only small letters, digits, dashes
and underscores. -/
def isBlockName (name : String) : Bool :=
  match name.toList with
  | [] => false
  | c :: rest => c ≠ '-' && isNameChar c && rest.all isNameChar

def checkName (block : Descriptor) : Except Failure Unit :=
  if isBlockName block.blockName then .ok ()
  else .error <| .configuration
    s!"Invalid block name '{block.blockName}': use lowercase letters, digits, '-' and '_'"

/-- The first element that agrees with an earlier one under `view`, behind that earlier one. -/
def firstClash {α β : Type} [DecidableEq β] (view : α → β) : List α → List α → Option (α × α)
  | _, [] => none
  | earlier, x :: rest =>
    match earlier.find? (view · = view x) with
    | some y => some (y, x)
    | none => firstClash view (earlier ++ [x]) rest

/-- Attribute keys become variables, so no two of a block may become the same one. -/
def checkKeys (block : Descriptor) : Except Failure Unit :=
  match firstClash Php.identifier [] (block.attributeList.map (·.1)) with
  | none => .ok ()
  | some (first, second) =>
    .error (.keyCollision block.blockName (Php.identifier second) first second)

def checkEach : List Descriptor → Except Failure Unit
  | [] => .ok ()
  | block :: rest => do
    checkName block
    checkKeys block
    checkEach rest

def checkBlockNames (blocks : List Descriptor) : Except Failure Unit :=
  match firstClash Descriptor.blockName [] blocks with
  | none => .ok ()
  | some (_, second) => .error (.duplicateBlock second.blockName)

def capitals (text : String) : Nat :=
  text.toList.countP isAsciiUpper

def requiredCapitals : Nat := 2

def checkTypeName (block : Descriptor) : Except Failure Unit :=
  if capitals block.typeName ≠ requiredCapitals then
    .error (.naming block.blockName block.typeName (.capitals (capitals block.typeName)))
  else if '/' ∈ block.typeName.toList then
    .error (.naming block.blockName block.typeName .slash)
  else .ok ()

def checkTypesAfter : List Descriptor → List Descriptor → Except Failure Unit
  | _, [] => .ok ()
  | earlier, block :: rest => do
    checkTypeName block
    match earlier.find? (·.typeName = block.typeName) with
    | some first => .error (.duplicateType block.typeName first.blockName block.blockName)
    | none => checkTypesAfter (earlier ++ [block]) rest

def checkTypes (blocks : List Descriptor) : Except Failure Unit :=
  checkTypesAfter [] blocks

def check (blocks : List Descriptor) : Except Failure Unit := do
  checkEach blocks
  checkBlockNames blocks
  checkTypes blocks

end ThemeBlocks.Block

namespace ThemeBlocks

structure Registry where
  blocks : List Block.Descriptor
  accepted : Block.check blocks = .ok ()

namespace Registry

def empty : Registry where
  blocks := []
  accepted := rfl

def ofBlocks (blocks : List Block.Descriptor) : Except Failure Registry :=
  match h : Block.check blocks with
  | .ok () => .ok ⟨blocks, h⟩
  | .error failure => .error failure

def get? (registry : Registry) (name : String) : Option Block.Descriptor :=
  registry.blocks.find? (·.blockName = name)

def size (registry : Registry) : Nat :=
  registry.blocks.length

end Registry

end ThemeBlocks

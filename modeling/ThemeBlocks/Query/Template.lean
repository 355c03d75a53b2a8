import ThemeBlocks.Block.Registry

/-! GraphQL queries. A template is a query with slots for the selections of the blocks; the full query
has one selection for each block in every slot, the minimal query has empty slots. -/

namespace ThemeBlocks.Query

def selection (typeName : String) : String :=
  "\n... on " ++ typeName ++ " \x7b\n  apiVersion\n  attributes \x7b\n    data\n  \x7d\n\x7d"

/-- The selections of all blocks in order, after the check of their type names; `none` if there are no
blocks. -/
def build (blocks : List Block.Descriptor) : Except Failure (Option String) := do
  Block.checkTypes blocks
  if blocks.isEmpty then .ok none
  else .ok (some (String.join (blocks.map fun block => selection block.typeName)))

def slotMark : String := "\x7b\x7bblocks\x7d\x7d"

def dropMark? : List Char → List Char → Option (List Char)
  | [], text => some text
  | _ :: _, [] => none
  | m :: mark, c :: text => if m = c then dropMark? mark text else none

theorem length_of_dropMark? {mark text rest : List Char} (h : dropMark? mark text = some rest) :
    text.length = mark.length + rest.length := by
  induction mark generalizing text with
  | nil => simp_all [dropMark?]
  | cons m mark ih =>
    cases text with
    | nil => simp [dropMark?] at h
    | cons c text =>
      by_cases hc : m = c
      · simp only [dropMark?, hc, if_true] at h
        simp [ih h, Nat.add_right_comm]
      · simp [dropMark?, hc] at h

/-- The pieces between the marks, found from the left; the mark is `m :: mark`. -/
def piecesBetween (m : Char) (mark : List Char) : List Char → List (List Char)
  | [] => [[]]
  | c :: text =>
    match _found : dropMark? (m :: mark) (c :: text) with
    | some rest => [] :: piecesBetween m mark rest
    | none =>
      match piecesBetween m mark text with
      | [] => [[c]]
      | piece :: pieces => (c :: piece) :: pieces
termination_by text => text.length
decreasing_by
  · have := length_of_dropMark? ‹dropMark? (m :: mark) (c :: text) = some rest›
    simp only [List.length_cons] at this ⊢
    omega
  · simp

def pieces (text : String) : List (List Char) :=
  match slotMark.toList with
  | [] => [text.toList]
  | m :: mark => piecesBetween m mark text.toList

structure Template where
  text : String
  hasSlot : 1 < (pieces text).length

namespace Template

def ofText (text : String) : Except Failure Template :=
  if h : 1 < (pieces text).length then .ok ⟨text, h⟩
  else .error (.configuration ("Query template has no " ++ slotMark ++ " placeholder"))

def fill (template : Template) (fragment : String) : String :=
  .ofList (List.intercalate fragment.toList (pieces template.text))

def render (template : Template) (fragment : Option String) : String :=
  template.fill (fragment.getD "")

def fullQuery (template : Template) (registry : Registry) : Except Failure String := do
  let fragment ← build registry.blocks
  .ok (template.render fragment)

def minimalQuery (template : Template) : String :=
  template.render none

end Template

def defaultText : String :=
  "query GetCMSData \x7b\n  pages \x7b\n    nodes \x7b\n      id\n      title\n      slug\n      uri\n" ++
  "      date\n      isFrontPage\n      isPostsPage\n      editorBlocks(flat: true) \x7b\n" ++
  "        __typename\n        name" ++ slotMark ++ "\n      \x7d\n    \x7d\n  \x7d\n\x7d\n"

def Template.default : Template where
  text := defaultText
  hasSlot := by decide +kernel

end ThemeBlocks.Query

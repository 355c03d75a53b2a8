import ThemeBlocks.Cms.EditorBlock
import ThemeBlocks.Failure

/-! A snapshot of the content of a site. Each top-level entry of the data whose `nodes` are a list of
objects is a collection of content nodes; every other entry is kept as it is. Blocks that cannot be
read, and data that cannot be decoded, are warned about and leave the rest as it is. -/

namespace ThemeBlocks.Cms

open Json

structure ContentNode where
  editorBlocks : Option (List EditorBlock)
  fields : List (String × Value)
  deriving Repr, Inhabited

/-- A node is called by its slug, else by its id, else by its title, else by its position. -/
def nodeLabel (fields : List (String × Value)) (index : Nat) : String :=
  match ["slug", "id", "title"].findSome? fun key => (lookup? key fields).bind Value.text? with
  | some name => name
  | none => "#" ++ toString index

namespace ContentNode

def blocks (node : ContentNode) : List EditorBlock :=
  node.editorBlocks.getD []

def label (node : ContentNode) (index : Nat) : String :=
  nodeLabel node.fields index

def fieldText? (node : ContentNode) (name : String) : Option String :=
  (lookup? name node.fields).bind Value.text?

def toJson (node : ContentNode) : Value :=
  .object <|
    (node.editorBlocks.map fun blocks =>
      ("editorBlocks", Value.array (blocks.map EditorBlock.toJson))).toList ++
    node.fields

end ContentNode

structure Warning where
  collection : String
  node : String
  block : String
  message : String
  deriving Repr, DecidableEq, Inhabited

namespace Warning

def text (warning : Warning) : String :=
  s!"Error decoding block data ({warning.collection} > {warning.node} > {warning.block}): " ++
    s!"{warning.message}"

def toJson (warning : Warning) : Value :=
  .object [("collection", .string warning.collection), ("node", .string warning.node),
    ("block", .string warning.block), ("message", .string warning.message)]

end Warning

structure Remark where
  block : String
  message : String
  deriving Repr, DecidableEq

def decodeItems : Nat → List Value → List EditorBlock × List Remark
  | _, [] => ([], [])
  | position, item :: items =>
    let (blocks, remarks) := decodeItems (position + 1) items
    match EditorBlock.decode item with
    | .kept block none => (block :: blocks, remarks)
    | .kept block (some message) => (block :: blocks, ⟨block.name, message⟩ :: remarks)
    | .dropped name message =>
      (blocks, ⟨name.getD ("#" ++ toString position), message⟩ :: remarks)

/-- The blocks of a node: an absent list is no list, and what is no list is remarked upon. -/
def decodeBlocks : Option Value → Option (List EditorBlock) × List Remark
  | none | some .null => (none, [])
  | some (.array items) =>
    let (blocks, remarks) := decodeItems 0 items
    (some blocks, remarks)
  | some value => (none, [⟨"", "editorBlocks is not a list: " ++ value.compact⟩])

def withoutKey (key : String) (members : List (String × Value)) : List (String × Value) :=
  members.filter (·.1 ≠ key)

def decodeNode (collection : String) (index : Nat) (members : List (String × Value)) :
    ContentNode × List Warning :=
  let (blocks, remarks) := decodeBlocks (lookup? "editorBlocks" members)
  let label := nodeLabel members index
  (⟨blocks, withoutKey "editorBlocks" members⟩,
    remarks.map fun remark => ⟨collection, label, remark.block, remark.message⟩)

def decodeElement (collection : String) (index : Nat) :
    Value → Except FetchError (ContentNode × List Warning)
  | .object members => .ok (decodeNode collection index members)
  | _ => .error (.unreadable s!"{collection}[{index}] is not an object")

def decodeElements (collection : String) : Nat → List Value →
    Except FetchError (List ContentNode × List Warning)
  | _, [] => .ok ([], [])
  | index, element :: rest => do
    let (node, warnings) ← decodeElement collection index element
    let (nodes, more) ← decodeElements collection (index + 1) rest
    .ok (node :: nodes, warnings ++ more)

def isCollection (entry : Value) : Bool :=
  ((entry.member? "nodes").bind Value.items?).any fun items => items.all Value.isObject

def nodesOf : Value → Value
  | .object members => (lookup? "nodes" members).getD .null
  | _ => .null

structure Snapshot where
  collections : List (String × List ContentNode) := []
  other : List (String × Value) := []
  deriving Repr, Inhabited

namespace Snapshot

def decodeEntries : List (String × Value) → Except FetchError (Snapshot × List Warning)
  | [] => .ok ({}, [])
  | (key, entry) :: rest =>
    if isCollection entry then
      match nodesOf entry with
      | .array elements => do
        let (nodes, warnings) ← decodeElements key 0 elements
        let (snapshot, more) ← decodeEntries rest
        .ok ({ snapshot with collections := (key, nodes) :: snapshot.collections }, warnings ++ more)
      | _ => decodeEntries rest
    else do
      let (snapshot, warnings) ← decodeEntries rest
      .ok ({ snapshot with other := (key, entry) :: snapshot.other }, warnings)

def decode (data : Value) : Except FetchError (Snapshot × List Warning) :=
  match data with
  | .object entries => decodeEntries entries
  | _ => .error (.unreadable "expected the response data to be an object")

def collection (snapshot : Snapshot) (name : String) : List ContentNode :=
  (lookup? name snapshot.collections).getD []

def nodes (snapshot : Snapshot) : List ContentNode :=
  snapshot.collections.flatMap (·.2)

def blocks (snapshot : Snapshot) : List EditorBlock :=
  snapshot.nodes.flatMap ContentNode.blocks

def blockCount (snapshot : Snapshot) : Nat :=
  snapshot.blocks.length

/-- The collections under one key, and the other entries beside that key. -/
def toJson (snapshot : Snapshot) : Value :=
  .object <|
    ("collections", .object <| snapshot.collections.map fun (key, nodes) =>
      (key, .array (nodes.map ContentNode.toJson))) :: snapshot.other

end Snapshot

end ThemeBlocks.Cms

import ThemeBlocks.Block.Json
import ThemeBlocks.Block.Registry
import ThemeBlocks.Report.Status
import ThemeBlocks.Report.Table
import ThemeBlocks.Sync.Drift

/-! The blocks of a registry, and the result of a sync with a row for each content node, as tables and as
JSON. -/

namespace ThemeBlocks.Report

def cellLimit : Nat := 40

def blockRow (isColoured : Bool) (block : Block.Descriptor) : List String :=
  [block.blockName, block.displayName, Ink.dimmed.applyIf isColoured block.typeName,
    toString block.attributeList.length, truncate cellLimit block.description]

def blocksTable (isColoured : Bool) (registry : Registry) : Table where
  heads := ["Block", "Title", "GraphQL type", "Fields", "Description"]
  rows := registry.blocks.map (blockRow isColoured)

def blocksJson (isPretty : Bool) (registry : Registry) : String :=
  (Block.descriptorsToJson registry.blocks).render isPretty

def distinct : List String → List String
  | [] => []
  | text :: texts => text :: (distinct texts).filter (· ≠ text)

structure NodeRow where
  collection : String
  node : String
  blocks : Nat
  raw : Nat
  types : List String
  deriving Repr, DecidableEq

namespace NodeRow

def ofNode (collection : String) (index : Nat) (node : Cms.ContentNode) : NodeRow where
  collection := collection
  node := node.label index
  blocks := node.blocks.length
  raw := (node.blocks.filter fun block => block.data.any Cms.Payload.isRaw).length
  types := distinct (node.blocks.map (·.typeName))

def cells (isColoured : Bool) (row : NodeRow) : List String :=
  [row.collection, row.node, toString row.blocks,
    Ink.red.applyIf (isColoured && 0 < row.raw) (toString row.raw),
    truncate cellLimit (", ".intercalate row.types)]

end NodeRow

def nodeRows (snapshot : Cms.Snapshot) : List NodeRow :=
  snapshot.collections.flatMap fun (collection, nodes) =>
    nodes.mapIdx (NodeRow.ofNode collection)

def contentTable (isColoured : Bool) (context : Sync.Context) : Table where
  heads := ["Collection", "Node", "Blocks", "Raw data", "Types"]
  rows := (nodeRows context.snapshot).map (NodeRow.cells isColoured)

def contentDocument (context : Sync.Context) : Json.Value :=
  .object [("resolution", .string context.resolution.name),
    ("templates_outdated", .bool context.templatesOutdated),
    ("data", context.snapshot.toJson),
    ("warnings", .array (context.warnings.map Cms.Warning.toJson))]

def contentJson (isPretty : Bool) (context : Sync.Context) : String :=
  (contentDocument context).render isPretty

end ThemeBlocks.Report

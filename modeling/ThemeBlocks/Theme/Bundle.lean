import ThemeBlocks.Block.Registry
import ThemeBlocks.Files.Path
import ThemeBlocks.Theme.Registration

/-! The generated part of a theme: one template a block, and the functions file that registers all
blocks. The registrations stand in a function that runs only where the CMS knows the two calls. -/

namespace ThemeBlocks.Theme

open Php (Stmt)

def bindings (block : Block.Descriptor) : String :=
  String.join <| block.attributeList.map fun entry =>
    (Stmt.assign entry.1 (.call "get_field" [.text entry.2.fieldName])).render

def markup (block : Block.Descriptor) (options : Options) : String :=
  "<div class=\"" ++ Php.escapeMarkup options.wrapperClass ++ " block-" ++
    Php.escapeMarkup block.blockName ++ "\">\n    <h1>" ++ Php.escapeMarkup block.displayName ++
    "</h1>\n</div>\n"

def templateFile (block : Block.Descriptor) (options : Options) : String :=
  "<?php\n" ++ bindings block ++ "?>\n\n" ++ markup block options

structure Compiled where
  blockName : String
  templateFile : String
  registration : String
  fieldGroup : String
  deriving Repr, DecidableEq, Inhabited

def compile (block : Block.Descriptor) (options : Options) : Compiled where
  blockName := block.blockName
  templateFile := templateFile block options
  registration := (Registration.ofBlock block options).toStmt.render
  fieldGroup := (FieldGroup.ofBlock block).toStmt.render

def registrationFunction : String := "blockgen_register_acf_block_types_and_fields"

/-- A prologue that ends its last line. -/
def endLine (text : String) : String :=
  match text.toList.getLast? with
  | none => text
  | some c => if c = '\n' then text else text ++ "\n"

def guardOpening : String :=
  "function " ++ registrationFunction ++ "() \x7b\n" ++
    "    if (function_exists('acf_register_block_type') && " ++
    "function_exists('acf_add_local_field_group')) \x7b\n"

def guardClosing : String :=
  "    \x7d\n\x7d\nadd_action('acf/init', '" ++ registrationFunction ++ "');\n"

def guarded (block : Compiled) : String :=
  "\n" ++ Text.indent block.registration 2 ++ "\n\n" ++ Text.indent block.fieldGroup 2 ++ "\n"

def functionsBody (blocks : List Compiled) : String :=
  guardOpening ++ String.join (blocks.map guarded) ++ guardClosing

def functionsScript (blocks : List Compiled) (boilerplate : Boilerplate) : String :=
  endLine boilerplate.prologue ++ functionsBody blocks ++ boilerplate.epilogue

/-- A file of the theme; the path starts at the theme's directory. -/
structure GeneratedFile where
  path : Files.Path
  contents : String
  deriving Repr, DecidableEq, Inhabited

structure Bundle where
  blocks : List Compiled
  files : List GeneratedFile
  deriving Repr, DecidableEq, Inhabited

namespace Bundle

def ofRegistry (registry : Registry) (options : Options) : Bundle :=
  let blocks := registry.blocks.map (compile · options)
  let templates := blocks.map fun block =>
    ⟨⟨options.templatePath block.blockName⟩, block.templateFile⟩
  ⟨blocks, templates ++
    [⟨⟨options.functionsFile⟩, functionsScript blocks options.boilerplate⟩]⟩

/-- The first file whose path has the same components. -/
def file? (bundle : Bundle) (path : Files.Path) : Option GeneratedFile :=
  bundle.files.find? (·.path.components = path.components)

end Bundle

structure WrittenFiles where
  files : List Files.Path := []
  deriving Repr, DecidableEq, Inhabited

end ThemeBlocks.Theme

import ThemeBlocks.Php.Literal
import ThemeBlocks.Text.Lines

/-! PHP expressions and statements as data, and their layout as text. An array is written in one of
three ways: empty, on one line when it holds nothing but texts without keys, and otherwise one item a
line, indented one level deeper than the array itself. -/

namespace ThemeBlocks.Php

inductive Expr
  | text (value : String)
  | call (function : String) (args : List Expr)
  | array (items : List (Option String × Expr))
  deriving Repr, Inhabited, BEq

inductive Stmt
  | assign (target : String) (value : Expr)
  | eval (value : Expr)
  deriving Repr, Inhabited, BEq

namespace Expr

def sequence (items : List Expr) : Expr :=
  .array (items.map (none, ·))

def texts (values : List String) : Expr :=
  .sequence (values.map .text)

def assoc (entries : List (String × Expr)) : Expr :=
  .array (entries.map fun entry => (some entry.1, entry.2))

def isPlainItem : Option String × Expr → Bool
  | (none, .text _) => true
  | _ => false

def marginText (depth : Nat) : String :=
  .ofList (Text.margin depth)

def keyText : Option String → String
  | none => ""
  | some key => quote key ++ " => "

mutual

def render : Expr → Nat → String
  | .text value, _ => quote value
  | .call function args, depth => function ++ "(" ++ renderArgs args depth ++ ")"
  | .array items, depth =>
    if items.isEmpty then "array()"
    else if items.all isPlainItem then "array(" ++ renderRow items depth ++ ")"
    else "array(\n" ++ renderItems items (depth + 1) ++ marginText depth ++ ")"
termination_by structural expr => expr

def renderArgs : List Expr → Nat → String
  | [], _ => ""
  | [arg], depth => arg.render depth
  | arg :: args, depth => arg.render depth ++ ", " ++ renderArgs args depth
termination_by structural args => args

/-- Items on one line; keys are left to the layout with one item a line. -/
def renderRow : List (Option String × Expr) → Nat → String
  | [], _ => ""
  | [(_, value)], depth => value.render depth
  | (_, value) :: items, depth => value.render depth ++ ", " ++ renderRow items depth
termination_by structural items => items

def renderItems : List (Option String × Expr) → Nat → String
  | [], _ => ""
  | (key, value) :: items, depth =>
    marginText depth ++ keyText key ++ value.render depth ++ ",\n" ++ renderItems items depth
termination_by structural items => items

end

end Expr

def Stmt.render : Stmt → String
  | .assign target value => "$" ++ identifier target ++ " = " ++ value.render 0 ++ ";\n"
  | .eval value => value.render 0 ++ ";\n"

end ThemeBlocks.Php

import Mathlib.Data.List.Forall2
import ThemeBlocks.Proofs.Theme.FunctionsScript

/-! The functions file token by token. Indentation works on lines of text and knows nothing of PHP, yet
no text of a block gets out of its literal: in the guard stand the tokens of the blocks' own fragments,
one for one, and only the inside of a literal can differ, by blanks behind a line feed and by a carriage
return that stood in front of one. -/

namespace ThemeBlocks.Text

/-- The second text is the first one with blanks put behind some line feeds, and some carriage returns in
front of line feeds left out. -/
inductive Reflowed : List Char → List Char → Prop
  | nil : Reflowed [] []
  | keep (c : Char) {text other : List Char} : Reflowed text other → Reflowed (c :: text) (c :: other)
  | feed (blanks : Nat) {text other : List Char} : Reflowed text other →
      Reflowed ('\n' :: text) ('\n' :: (List.replicate blanks ' ' ++ other))
  | ending (blanks : Nat) {text other : List Char} : Reflowed text other →
      Reflowed ('\r' :: '\n' :: text) ('\n' :: (List.replicate blanks ' ' ++ other))

theorem atLineStart_eq (depth : Nat) (text shifted : List Char) :
    ∃ blanks, atLineStart depth text shifted = List.replicate blanks ' ' ++ shifted := by
  unfold atLineStart
  split
  · exact ⟨0, rfl⟩
  · exact ⟨4 * depth, rfl⟩

theorem reflowed_shift (depth : Nat) (text : List Char) : Reflowed text (shift depth text) := by
  fun_induction shift depth text with
  | case1 => exact .nil
  | case2 rest ih =>
    obtain ⟨blanks, hstart⟩ := atLineStart_eq depth rest (shift depth rest)
    rw [hstart]
    exact .feed blanks ih
  | case3 rest ih =>
    obtain ⟨blanks, hstart⟩ := atLineStart_eq depth rest (shift depth rest)
    rw [hstart]
    exact .ending blanks ih
  | case4 c rest _ _ ih => exact .keep c ih

end ThemeBlocks.Text

namespace ThemeBlocks.Php

open Text

namespace Token

def mapText (change : String → String) : Token → Token
  | .literal value => .literal (change value)
  | token => token

/-- Tokens of one kind that agree in everything but the layout inside a literal. -/
inductive SameButLayout : Token → Token → Prop
  | refl (token : Token) : SameButLayout token token
  | literal {value other : String} : Reflowed value.toList other.toList →
      SameButLayout (.literal value) (.literal other)

theorem sameButLayout_mapText (depth : Nat) (token : Token) :
    SameButLayout token (token.mapText (shiftText depth)) := by
  cases token with
  | literal value =>
    refine .literal ?_
    rw [shiftText, String.toList_ofList]
    exact reflowed_shift depth value.toList
  | _ => exact .refl _

end Token

namespace Expr

variable (change : String → String)

theorem commaTokens_map (pieces : List (List Token)) :
    commaTokens (pieces.map (List.map (Token.mapText change))) =
      (commaTokens pieces).map (Token.mapText change) := by
  induction pieces with
  | nil => rfl
  | cons piece pieces ih =>
    cases pieces with
    | nil => simp [commaTokens]
    | cons next pieces =>
      simp only [commaTokens, List.map_cons, List.intercalate_cons_cons] at ih ⊢
      simp [ih, Token.mapText]

theorem lineTokens_map (pieces : List (List Token)) :
    lineTokens (pieces.map (List.map (Token.mapText change))) =
      (lineTokens pieces).map (Token.mapText change) := by
  simp [lineTokens, List.flatMap_map, List.map_flatMap, Token.mapText]

theorem keyTokens_map (key : Option String) :
    keyTokens (key.map change) = (keyTokens key).map (Token.mapText change) := by
  cases key <;> rfl

theorem tokens_mapTexts (expr : Expr) :
    (expr.mapTexts change).tokens = expr.tokens.map (Token.mapText change) := by
  induction expr with
  | text value => rfl
  | call function args ih =>
    have hargs : (args.map (mapTexts change)).map tokens =
        (args.map tokens).map (List.map (Token.mapText change)) := by
      rw [List.map_map, List.map_map]
      exact List.map_congr_left ih
    rw [mapTexts_call, tokens, tokens, argTokens_eq, argTokens_eq, hargs, commaTokens_map]
    simp [Token.mapText]
  | array items ih =>
    have hitems : itemTokens (items.map fun item => (item.1.map change, item.2.mapTexts change)) =
        (itemTokens items).map (List.map (Token.mapText change)) := by
      rw [itemTokens_eq, itemTokens_eq, List.map_map, List.map_map]
      refine List.map_congr_left fun item hitem => ?_
      simp [keyTokens_map, ih item hitem]
    have hplain : (items.map fun item => (item.1.map change, item.2.mapTexts change)).all isPlainItem =
        items.all isPlainItem := by
      simp [List.all_map, Function.comp_def, isPlainItem_mapTexts]
    rw [mapTexts_array, tokens, tokens, hitems, hplain, commaTokens_map, lineTokens_map]
    split <;> simp [Token.mapText]

end Expr

theorem Stmt.tokens_mapTexts (change : String → String) (stmt : Stmt) :
    (stmt.mapTexts change).tokens = stmt.tokens.map (Token.mapText change) := by
  cases stmt <;> simp [Stmt.mapTexts, tokens, targetTokens, value, Expr.tokens_mapTexts, Token.mapText]

end ThemeBlocks.Php

namespace ThemeBlocks.Theme

open Php Text

def Compiled.tokens? (compiled : Compiled) : Option (List Token) := do
  let registration ← scan compiled.registration
  let fieldGroup ← scan compiled.fieldGroup
  some (registration ++ fieldGroup)

def ownTokens? (compiled : List Compiled) : Option (List Token) :=
  (compiled.mapM Compiled.tokens?).map List.flatten

theorem tokens?_compile (block : Block.Descriptor) (options : Options) :
    (compile block options).tokens? = some ((statementsOf options block).flatMap Stmt.tokens) := by
  have hregistration := scan_of_spells
    (Stmt.spells_render (wellNamed_registration (Registration.ofBlock block options)))
  have hgroup := scan_of_spells (Stmt.spells_render (wellNamed_fieldGroup (FieldGroup.ofBlock block)))
  simp [Compiled.tokens?, compile, hregistration, hgroup, statementsOf]

theorem ownTokens?_compile (blocks : List Block.Descriptor) (options : Options) :
    ownTokens? (blocks.map (compile · options)) =
      some ((blocks.flatMap (statementsOf options)).flatMap Stmt.tokens) := by
  have hblock : Compiled.tokens? ∘ (compile · options) =
      fun block => pure ((statementsOf options block).flatMap Stmt.tokens) :=
    funext fun block => tokens?_compile block options
  rw [ownTokens?, List.mapM_map, hblock, List.mapM_pure, List.flatMap_assoc]
  rfl

/-- The functions file between its prologue and its epilogue is the guard around the tokens of all
fragments, in the order of the registry. Whatever a text of a block holds, it stays in its literal. -/
theorem functionsScript_tokens (registry : Registry) (options : Options) :
    ∃ body own inner,
      functionsScript (registry.blocks.map (compile · options)) options.boilerplate =
        endLine options.boilerplate.prologue ++ body ++ options.boilerplate.epilogue ∧
      ownTokens? (registry.blocks.map (compile · options)) = some own ∧
      scan body = some (guardHead ++ inner ++ .mark .closeBrace :: guardTail) ∧
      List.Forall₂ Token.SameButLayout own inner := by
  have hscan := scan_of_spells (spells_functionsBody registry.blocks options)
  generalize hstmts : registry.blocks.flatMap (statementsOf options) = stmts at hscan
  have hinner : (stmts.map (Stmt.mapTexts (shiftText 2))).flatMap Stmt.tokens =
      (stmts.flatMap Stmt.tokens).map (Token.mapText (shiftText 2)) := by
    rw [List.flatMap_map, List.map_flatMap]
    simp only [Stmt.tokens_mapTexts]
  rw [hinner] at hscan
  refine ⟨_, stmts.flatMap Stmt.tokens, _, rfl, ?_, hscan, ?_⟩
  · rw [ownTokens?_compile, hstmts]
  · rw [List.forall₂_map_right_iff, List.forall₂_same]
    exact fun token _ => Token.sameButLayout_mapText 2 token

end ThemeBlocks.Theme

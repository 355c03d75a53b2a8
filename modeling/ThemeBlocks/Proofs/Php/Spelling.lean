import ThemeBlocks.Proofs.Php.Token

/-! The tokens of an expression. They do not depend on the depth at which it is printed; of the three
layouts of an array only the one with a line for each item shows, by a comma behind the last item. -/

namespace ThemeBlocks.Php

namespace Expr

def keyTokens : Option String → List Token
  | none => []
  | some key => [.literal key, .mark .arrow]

def commaTokens (pieces : List (List Token)) : List Token :=
  List.intercalate [.mark .comma] pieces

def lineTokens (pieces : List (List Token)) : List Token :=
  pieces.flatMap (· ++ [.mark .comma])

mutual

def tokens : Expr → List Token
  | .text value => [.literal value]
  | .call function args =>
    .word function :: .mark .opening :: (commaTokens (argTokens args) ++ [.mark .closing])
  | .array items =>
    .word "array" :: .mark .opening ::
      ((if items.all isPlainItem then commaTokens (itemTokens items)
        else lineTokens (itemTokens items)) ++ [.mark .closing])
termination_by structural expr => expr

def argTokens : List Expr → List (List Token)
  | [] => []
  | arg :: args => arg.tokens :: argTokens args
termination_by structural args => args

def itemTokens : List (Option String × Expr) → List (List Token)
  | [] => []
  | (key, value) :: items => (keyTokens key ++ value.tokens) :: itemTokens items
termination_by structural items => items

end

theorem argTokens_eq (args : List Expr) : argTokens args = args.map tokens := by
  induction args with
  | nil => rfl
  | cons arg args ih => simp [argTokens, ih]

theorem itemTokens_eq (items : List (Option String × Expr)) :
    itemTokens items = items.map fun item => keyTokens item.1 ++ item.2.tokens := by
  induction items with
  | nil => rfl
  | cons item items ih => simp [itemTokens, ih]

section Pieces

variable {α : Type} {text : α → List Char} {word : α → List Token}

theorem spells_commaChars {xs : List α} (h : ∀ x ∈ xs, Spells (text x) (word x)) :
    Spells (commaChars (xs.map text)) (commaTokens (xs.map word)) := by
  induction xs with
  | nil => rfl
  | cons x xs ih =>
    obtain ⟨hx, hxs⟩ := List.forall_mem_cons.1 h
    cases xs with
    | nil => simpa [commaChars, commaTokens] using hx
    | cons y xs =>
      have hrest := (hx.append spells_comma).append (ih hxs)
      simpa [commaChars, commaTokens] using hrest

theorem spells_flatMap {xs : List α} (h : ∀ x ∈ xs, Spells (text x) (word x)) :
    Spells (xs.flatMap text) (xs.flatMap word) := by
  induction xs with
  | nil => rfl
  | cons x xs ih =>
    obtain ⟨hx, hxs⟩ := List.forall_mem_cons.1 h
    simpa using hx.append (ih hxs)

end Pieces

theorem spells_keyChars (key : Option String) : Spells (keyChars key) (keyTokens key) := by
  cases key with
  | none => rfl
  | some key =>
    have h := (spells_quote key).append spells_arrow
    simpa [keyChars, keyText, quote, keyTokens] using h

theorem spells_lineChars {item : Option String × Expr} {depth : Nat}
    (h : Spells (item.2.chars depth) item.2.tokens) :
    Spells (lineChars depth item) (keyTokens item.1 ++ item.2.tokens ++ [.mark .comma]) :=
  (((spells_margin depth).append (spells_keyChars item.1)).append h).append spells_lineEnd

theorem spells_chars {expr : Expr} (named : expr.WellNamed) (depth : Nat) :
    Spells (expr.chars depth) expr.tokens := by
  induction expr generalizing depth with
  | text value => simpa [chars_text, tokens] using spells_quote value
  | call function args ih =>
    cases named with
    | call hname _ hargs =>
      have hlist := spells_commaChars fun arg harg => ih arg harg (hargs arg harg) depth
      have h := ((spells_word hname).append hlist).append spells_closing
      simpa [chars_call, tokens, argTokens_eq] using h
  | array items ih =>
    cases named with
    | array hitems =>
      have hword : isName "array" := by decide
      by_cases plain : items.all isPlainItem
      · have hkeys : ∀ item ∈ items, keyTokens item.1 ++ item.2.tokens = item.2.tokens := by
          intro item hitem
          obtain ⟨value, rfl⟩ := isPlainItem_iff.1 (List.all_eq_true.1 plain item hitem)
          rfl
        have hlist := spells_commaChars fun item hitem => ih item hitem (hitems item hitem) depth
        have h := ((spells_word hword).append hlist).append spells_closing
        rw [chars_row plain]
        simpa [tokens, plain, itemTokens_eq, List.map_congr_left hkeys] using h
      · have hlist := spells_flatMap fun item hitem =>
          spells_lineChars (ih item hitem (hitems item hitem) (depth + 1))
        have hline : Spells ['\n'] [] := rfl
        have h := ((((spells_word hword).append hline).append hlist).append
          (spells_margin depth)).append spells_closing
        rw [chars_lines plain]
        simpa [tokens, plain, itemTokens_eq, lineTokens, List.flatMap_map] using h

end Expr

end ThemeBlocks.Php

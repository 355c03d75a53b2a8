import ThemeBlocks.Proofs.Php.Spelling

/-! A reader of PHP expressions and statements. It takes one token after the other and keeps the brackets
that are open, the innermost first; a comma may stand behind the last item of a bracket. The word
`array` in front of a bracket makes an array, whose items may have keys; any other word calls a function.
What the printer writes reads back as what was printed, at any depth and in any layout. -/

namespace ThemeBlocks.Php

/-- An open bracket: the word in front of it, the items read so far, and the key whose value comes next. -/
structure Bracket where
  name : String
  items : List (Option String × Expr) := []
  key : Option String := none

namespace Bracket

def push (bracket : Bracket) (value : Expr) : Bracket :=
  { bracket with items := bracket.items ++ [(bracket.key, value)], key := none }

def close? (bracket : Bracket) : Option Expr :=
  if bracket.name = "array" then some (.array bracket.items)
  else if bracket.items.all (·.1.isNone) then some (.call bracket.name (bracket.items.map (·.2)))
  else none

end Bracket

inductive Reading
  /-- A value comes next, or a bracket is closed. -/
  | awaiting (brackets : List Bracket)
  /-- Behind a word. -/
  | named (name : String) (brackets : List Bracket)
  /-- Behind a value. -/
  | complete (value : Expr) (brackets : List Bracket)

namespace Reading

def next : Reading → Token → Option Reading
  | .awaiting brackets, .literal value => some (.complete (.text value) brackets)
  | .awaiting brackets, .word name => some (.named name brackets)
  | .awaiting (bracket :: brackets), .mark .closing =>
    if bracket.key.isNone then bracket.close?.map (.complete · brackets) else none
  | .named name brackets, .mark .opening => some (.awaiting ({ name } :: brackets))
  | .complete (.text key) (bracket :: brackets), .mark .arrow =>
    if bracket.key.isNone then some (.awaiting ({ bracket with key := some key } :: brackets))
    else none
  | .complete value (bracket :: brackets), .mark .comma =>
    some (.awaiting (bracket.push value :: brackets))
  | .complete value (bracket :: brackets), .mark .closing =>
    (bracket.push value).close?.map (.complete · brackets)
  | _, _ => none

def follow (reading : Reading) (tokens : List Token) : Option Reading :=
  tokens.foldlM next reading

theorem follow_append (reading : Reading) (front back : List Token) :
    reading.follow (front ++ back) = (reading.follow front).bind (·.follow back) :=
  List.foldlM_append

end Reading

def Expr.read? (text : String) : Option Expr := do
  match ← (Reading.awaiting []).follow (← scan text) with
  | .complete value [] => some value
  | _ => none

inductive Script
  | fresh (statements : List Stmt)
  | targeted (statements : List Stmt) (target : String)
  | within (statements : List Stmt) (target : Option String) (reading : Reading)

namespace Script

def stmtOf : Option String → Expr → Stmt
  | none, value => .eval value
  | some target, value => .assign target value

def next : Script → Token → Option Script
  | .fresh statements, .variable target => some (.targeted statements target)
  | .fresh statements, token =>
    ((Reading.awaiting []).next token).map (.within statements none)
  | .targeted statements target, .mark .equals =>
    some (.within statements (some target) (.awaiting []))
  | .within statements target (.complete value []), .mark .semicolon =>
    some (.fresh (statements ++ [stmtOf target value]))
  | .within statements target reading, token =>
    (reading.next token).map (.within statements target)
  | _, _ => none

def follow (script : Script) (tokens : List Token) : Option Script :=
  tokens.foldlM next script

theorem follow_append (script : Script) (front back : List Token) :
    script.follow (front ++ back) = (script.follow front).bind (·.follow back) :=
  List.foldlM_append

end Script

def readStatements (tokens : List Token) : Option (List Stmt) := do
  match ← (Script.fresh []).follow tokens with
  | .fresh statements => some statements
  | _ => none

def Stmt.readAll? (text : String) : Option (List Stmt) :=
  (scan text).bind readStatements

open ThemeBlocks.Php.Expr (keyTokens commaTokens lineTokens)

/-- From any open brackets, the tokens are read as this value. -/
def ReadsAs (tokens : List Token) (value : Expr) : Prop :=
  ∀ brackets, (Reading.awaiting brackets).follow tokens = some (.complete value brackets)

def itemWord (item : Option String × Expr) : List Token :=
  keyTokens item.1 ++ item.2.tokens

section Items

variable {items : List (Option String × Expr)} (name : String)
  (before : List (Option String × Expr)) (brackets : List Bracket)

theorem follow_itemWord {item : Option String × Expr} (h : ReadsAs item.2.tokens item.2) :
    (Reading.awaiting (⟨name, before, none⟩ :: brackets)).follow (itemWord item) =
      some (.complete item.2 (⟨name, before, item.1⟩ :: brackets)) := by
  obtain ⟨key, value⟩ := item
  cases key with
  | none => exact h _
  | some key => exact h (⟨name, before, some key⟩ :: brackets)

theorem follow_commaTokens (h : ∀ item ∈ items, ReadsAs item.2.tokens item.2) :
    (Reading.awaiting (⟨name, before, none⟩ :: brackets)).follow
        (commaTokens (items.map itemWord) ++ [.mark .closing]) =
      (Bracket.close? ⟨name, before ++ items, none⟩).map (.complete · brackets) := by
  -- Each item goes behind those that the bracket holds already.
  induction items generalizing before with
  | nil => simp [commaTokens, Reading.follow, Reading.next]
  | cons item items ih =>
    obtain ⟨hitem, hitems⟩ := List.forall_mem_cons.1 h
    have hfirst := follow_itemWord name before brackets hitem
    cases items with
    | nil =>
      rw [show commaTokens ([item].map itemWord) = itemWord item by simp [commaTokens],
        Reading.follow_append, hfirst]
      simp [Reading.follow, Reading.next, Bracket.push]
    | cons other items =>
      have hrest := ih (before ++ [item]) hitems
      rw [show commaTokens ((item :: other :: items).map itemWord) =
          itemWord item ++ .mark .comma :: commaTokens ((other :: items).map itemWord) by
        simp [commaTokens], List.append_assoc, Reading.follow_append, hfirst]
      simpa [Reading.follow, Reading.next, Bracket.push] using hrest

theorem follow_lineTokens (h : ∀ item ∈ items, ReadsAs item.2.tokens item.2) :
    (Reading.awaiting (⟨name, before, none⟩ :: brackets)).follow
        (lineTokens (items.map itemWord)) =
      some (.awaiting (⟨name, before ++ items, none⟩ :: brackets)) := by
  induction items generalizing before with
  | nil => simp [lineTokens, Reading.follow]
  | cons item items ih =>
    obtain ⟨hitem, hitems⟩ := List.forall_mem_cons.1 h
    have hfirst := follow_itemWord name before brackets hitem
    have hrest := ih (before ++ [item]) hitems
    rw [show lineTokens ((item :: items).map itemWord) =
        itemWord item ++ .mark .comma :: lineTokens (items.map itemWord) by simp [lineTokens],
      Reading.follow_append, hfirst]
    simpa [Reading.follow, Reading.next, Bracket.push] using hrest

end Items

theorem readsAs_tokens {expr : Expr} (named : expr.WellNamed) : ReadsAs expr.tokens expr := by
  induction expr with
  | text value => exact fun brackets => rfl
  | call function args ih =>
    intro brackets
    cases named with
    | call _ hname hargs =>
      have hitems : ∀ item ∈ args.map fun arg => ((none, arg) : Option String × Expr),
          ReadsAs item.2.tokens item.2 := by
        simpa using fun arg harg => ih arg harg (hargs arg harg)
      have h := follow_commaTokens function [] brackets hitems
      simpa [Expr.tokens, Expr.argTokens_eq, Reading.follow, Reading.next, Bracket.close?, hname,
        itemWord, keyTokens, Function.comp_def] using h
  | array items ih =>
    intro brackets
    cases named with
    | array hnamed =>
      have hitems := fun item hitem => ih item hitem (hnamed item hitem)
      rw [Expr.tokens, Expr.itemTokens_eq]
      split
      · exact follow_commaTokens "array" [] brackets hitems
      · have h := follow_lineTokens "array" [] brackets hitems
        change (Reading.awaiting (⟨"array", [], none⟩ :: brackets)).follow
          (lineTokens (items.map itemWord) ++ [.mark .closing]) = _
        rw [Reading.follow_append, h]
        rfl

namespace Stmt

def written : Stmt → Stmt
  | .assign target value => .assign (identifier target) value
  | .eval value => .eval value

def value : Stmt → Expr
  | .assign _ value => value
  | .eval value => value

def targetTokens : Stmt → List Token
  | .assign target _ => [.variable (identifier target), .mark .equals]
  | .eval _ => []

def tokens (stmt : Stmt) : List Token :=
  stmt.targetTokens ++ stmt.value.tokens ++ [.mark .semicolon]

theorem spells_render {stmt : Stmt} (named : stmt.value.WellNamed) :
    Spells stmt.render.toList stmt.tokens := by
  have hvalue := Expr.spells_chars named 0
  have hend : Spells [';', '\n'] [.mark .semicolon] := rfl
  cases stmt with
  | assign target value =>
    have h := ((spells_target (isName_identifier target)).append hvalue).append hend
    simpa [render, tokens, targetTokens, Stmt.value, Expr.chars] using h
  | eval value =>
    have h := hvalue.append hend
    simpa [render, tokens, targetTokens, Stmt.value, Expr.chars] using h

end Stmt

namespace Script

variable {statements : List Stmt} {target : Option String}

theorem next_within {reading after : Reading} {token : Token} (h : reading.next token = some after) :
    (Script.within statements target reading).next token = some (.within statements target after) := by
  unfold next
  split
  · simp_all
  · simp_all
  · simp_all
  · simp_all [Reading.next]
  · simp_all
  · simp_all

theorem follow_within {reading after : Reading} {tokens : List Token}
    (h : reading.follow tokens = some after) :
    (Script.within statements target reading).follow tokens =
      some (.within statements target after) := by
  induction tokens generalizing reading with
  | nil => simpa [follow, Reading.follow] using h
  | cons token tokens ih =>
    obtain ⟨middle, hnext, hrest⟩ : ∃ middle, reading.next token = some middle ∧
        middle.follow tokens = some after := by
      simpa [Reading.follow, Option.bind_eq_some_iff] using h
    have hs := ih hrest
    simpa [follow, next_within hnext] using hs

theorem follow_fresh {value : Expr} {tokens : List Token} (h : ReadsAs tokens value) :
    (Script.fresh statements).follow tokens = some (.within statements none (.complete value [])) := by
  have hvalue := h []
  cases tokens with
  | nil => simp [Reading.follow] at hvalue
  | cons token tokens =>
    obtain ⟨middle, hnext, hrest⟩ : ∃ middle, (Reading.awaiting []).next token = some middle ∧
        middle.follow tokens = some (.complete value []) := by
      simpa [Reading.follow, Option.bind_eq_some_iff] using hvalue
    have hfirst : (Script.fresh statements).next token = some (.within statements none middle) := by
      cases token <;> simp_all [next, Reading.next]
    have hs : (Script.within statements none middle).follow tokens =
        some (.within statements none (.complete value [])) := follow_within hrest
    simpa [follow, hfirst] using hs

end Script

theorem Stmt.follow_tokens {stmt : Stmt} (named : stmt.value.WellNamed) (statements : List Stmt) :
    (Script.fresh statements).follow stmt.tokens = some (.fresh (statements ++ [stmt.written])) := by
  have hvalue := readsAs_tokens named
  cases stmt with
  | assign target value =>
    have h : (Script.within statements (some (identifier target)) (.awaiting [])).follow value.tokens =
        some (.within statements (some (identifier target)) (.complete value [])) :=
      Script.follow_within (hvalue [])
    change (Script.within statements (some (identifier target)) (.awaiting [])).follow
      (value.tokens ++ [.mark .semicolon]) = _
    rw [Script.follow_append, h]
    rfl
  | eval value =>
    have h : (Script.fresh statements).follow value.tokens =
        some (.within statements none (.complete value [])) := Script.follow_fresh hvalue
    change (Script.fresh statements).follow (value.tokens ++ [.mark .semicolon]) = _
    rw [Script.follow_append, h]
    rfl

theorem Script.follow_statements {stmts : List Stmt} (named : ∀ stmt ∈ stmts, stmt.value.WellNamed)
    (before : List Stmt) :
    (Script.fresh before).follow (stmts.flatMap Stmt.tokens) =
      some (.fresh (before ++ stmts.map Stmt.written)) := by
  induction stmts generalizing before with
  | nil => simp [Script.follow]
  | cons stmt stmts ih =>
    obtain ⟨hstmt, hstmts⟩ := List.forall_mem_cons.1 named
    rw [List.flatMap_cons, Script.follow_append, Stmt.follow_tokens hstmt]
    simpa using ih hstmts (before ++ [stmt.written])

theorem readAll?_render {stmt : Stmt} (named : stmt.value.WellNamed) :
    Stmt.readAll? stmt.render = some [stmt.written] := by
  have hscan := scan_of_spells (Stmt.spells_render named)
  have hread := Script.follow_statements
    (show ∀ other ∈ [stmt], other.value.WellNamed by simpa using named) []
  simp only [List.flatMap_singleton] at hread
  simp [Stmt.readAll?, hscan, readStatements, hread]

/-- Reading inverts printing: an expression comes back whatever the depth, and a statement comes back
as that one statement, its target as the variable that the target's name becomes. -/
theorem read_render {expr : Expr} (named : expr.WellNamed) :
    (∀ depth, Expr.read? (expr.render depth) = some expr) ∧
      ∀ stmt : Stmt, stmt.value = expr → Stmt.readAll? stmt.render = some [stmt.written] := by
  refine ⟨fun depth => ?_, fun stmt hvalue => ?_⟩
  · have hscan := scan_of_spells (Expr.spells_chars named depth)
    simp [Expr.read?, hscan, readsAs_tokens named []]
  · subst hvalue
    exact readAll?_render named

def nestedCall : Expr :=
  .call "register"
    [.assoc [("it's", .texts ["a\\", "\n'"]), ("", .call "__" [.text "b\r\nc"])], .array []]

theorem read_render_nested :
    nestedCall.WellNamed ∧ Expr.read? (nestedCall.render 3) = some nestedCall ∧
      Stmt.readAll? (Stmt.assign "a-b" nestedCall).render = some [.assign "a_b" nestedCall] := by
  have named : nestedCall.WellNamed := by
    simp [nestedCall, show isName "register" by decide, show isName "__" by decide]
  have h := read_render named
  exact ⟨named, h.1 3, h.2 (.assign "a-b" nestedCall) rfl⟩

end ThemeBlocks.Php

import ThemeBlocks.Proofs.Php.Syntax

/-! Tokens of PHP, and a scanner that takes a text one character after the other. White space separates
tokens and is no token itself. A single-quoted literal is a token by the text it stands for: a backslash
in it counts only in front of a backslash or a quote. Every character beyond ASCII may be part of a
name, as its bytes are. The scanner covers the part of the language that generated code uses; a
character that starts no token of this part is refused. -/

namespace ThemeBlocks.Php

open Text

inductive Mark
  | opening
  | closing
  | comma
  | arrow
  | semicolon
  | equals
  | both
  | openBrace
  | closeBrace
  deriving Repr, DecidableEq

inductive Token
  | word (name : String)
  | variable (name : String)
  | literal (value : String)
  | mark (mark : Mark)
  deriving Repr, DecidableEq

def isSpace (c : Char) : Bool :=
  c = ' ' || c = '\t' || c = '\n' || c = '\r'

inductive Mode
  | between
  | word (read : List Char)
  | variable (read : List Char)
  | literal (read : List Char)
  /-- A literal, behind a backslash. -/
  | escape (read : List Char)
  /-- Behind the first character of a mark that may have two. -/
  | pending (first : Mark)
  deriving Repr, DecidableEq

def mark? : Char → Option Mark
  | '(' => some .opening
  | ')' => some .closing
  | ',' => some .comma
  | ';' => some .semicolon
  | '{' => some .openBrace
  | '}' => some .closeBrace
  | _ => none

abbrev Scanned := List Token × Mode

def begin (c : Char) : Option Scanned :=
  if isSpace c then some ([], .between)
  else if c = '\'' then some ([], .literal [])
  else if c = '$' then some ([], .variable [])
  else if c = '=' then some ([], .pending .equals)
  else if c = '&' then some ([], .pending .both)
  else if isNameStart c then some ([], .word [c])
  else (mark? c).map fun mark => ([.mark mark], .between)

def beginAfter (token : Token) (c : Char) : Option Scanned :=
  (begin c).map fun (tokens, mode) => (token :: tokens, mode)

def scanChar : Mode → Char → Option Scanned
  | .between, c => begin c
  | .word read, c =>
    if isNamePart c then some ([], .word (read ++ [c])) else beginAfter (.word (.ofList read)) c
  | .variable [], c => if isNameStart c then some ([], .variable [c]) else none
  | .variable read, c =>
    if isNamePart c then some ([], .variable (read ++ [c]))
    else beginAfter (.variable (.ofList read)) c
  | .literal read, c =>
    if c = '\'' then some ([.literal (.ofList read)], .between)
    else if c = '\\' then some ([], .escape read)
    else some ([], .literal (read ++ [c]))
  | .escape read, c =>
    if c = '\\' ∨ c = '\'' then some ([], .literal (read ++ [c]))
    else some ([], .literal (read ++ ['\\', c]))
  | .pending .equals, c =>
    if c = '>' then some ([.mark .arrow], .between) else beginAfter (.mark .equals) c
  | .pending .both, c => if c = '&' then some ([.mark .both], .between) else none
  | .pending _, _ => none

def scanFrom : Mode → List Char → Option Scanned
  | mode, [] => some ([], mode)
  | mode, c :: rest => do
    let (tokens, mode) ← scanChar mode c
    let (more, mode) ← scanFrom mode rest
    some (tokens ++ more, mode)

/-- The tokens of a text; a text that ends inside a literal or a mark has none. -/
def scan (text : String) : Option (List Token) := do
  match ← scanFrom .between text.toList with
  | (tokens, .between) => some tokens
  | (tokens, .word read) => some (tokens ++ [.word (.ofList read)])
  | (tokens, .variable (c :: read)) => some (tokens ++ [.variable (.ofList (c :: read))])
  | (tokens, .pending .equals) => some (tokens ++ [.mark .equals])
  | _ => none

/-- A text that begins and ends between two tokens. -/
def Spells (text : List Char) (tokens : List Token) : Prop :=
  scanFrom .between text = some (tokens, .between)

theorem scan_of_spells {text : String} {tokens : List Token} (h : Spells text.toList tokens) :
    scan text = some tokens := by
  simp [scan, show scanFrom .between text.toList = _ from h]

theorem scanFrom_append {mode middle last : Mode} {front back : List Char} {tokens more : List Token}
    (hf : scanFrom mode front = some (tokens, middle))
    (hb : scanFrom middle back = some (more, last)) :
    scanFrom mode (front ++ back) = some (tokens ++ more, last) := by
  induction front generalizing mode tokens with
  | nil =>
    obtain ⟨rfl, rfl⟩ : [] = tokens ∧ mode = middle := by simpa [scanFrom] using hf
    simpa using hb
  | cons c front ih =>
    simp only [scanFrom, Option.bind_eq_bind, Option.bind_eq_some_iff] at hf
    obtain ⟨⟨here, next⟩, hc, ⟨later, final⟩, hrest, heq⟩ := hf
    obtain ⟨rfl, rfl⟩ : here ++ later = tokens ∧ final = middle := by simpa using heq
    simp [scanFrom, hc, ih hrest]

theorem Spells.append {front back : List Char} {tokens more : List Token}
    (hf : Spells front tokens) (hb : Spells back more) : Spells (front ++ back) (tokens ++ more) :=
  scanFrom_append hf hb

theorem spells_margin (depth : Nat) : Spells (margin depth) [] := by
  unfold margin
  induction 4 * depth with
  | zero => rfl
  | succ n ih =>
    have hblank : Spells [' '] [] := rfl
    exact hblank.append ih

theorem spells_closing : Spells [')'] [.mark .closing] := rfl

theorem spells_comma : Spells [',', ' '] [.mark .comma] := rfl

theorem spells_lineEnd : Spells [',', '\n'] [.mark .comma] := rfl

theorem spells_arrow : Spells [' ', '=', '>', ' '] [.mark .arrow] := rfl

theorem scanFrom_escapeChar (read : List Char) (c : Char) :
    scanFrom (.literal read) (escapeChar c) = some ([], .literal (read ++ [c])) := by
  by_cases h : c = '\\' ∨ c = '\''
  · simp [escapeChar, scanFrom, scanChar, h]
  · have hs := not_or.1 h
    simp [escapeChar, scanFrom, scanChar, hs]

theorem scanFrom_escapeLiteral (read text : List Char) :
    scanFrom (.literal read) (escapeLiteral text) = some ([], .literal (read ++ text)) := by
  induction text generalizing read with
  | nil => simp [escapeLiteral, scanFrom]
  | cons c text ih =>
    have h := scanFrom_append (scanFrom_escapeChar read c) (ih (read ++ [c]))
    simpa [escapeLiteral] using h

/-- No text ends its own literal. -/
theorem spells_quote (value : String) :
    Spells ('\'' :: escapeLiteral value.toList ++ ['\'']) [.literal value] := by
  have hopen : scanFrom .between ['\''] = some ([], .literal []) := rfl
  have hclose : scanFrom (.literal ([] ++ value.toList)) ['\''] = some ([.literal value], .between) := by
    simp [scanFrom, scanChar]
  have hinner := scanFrom_append (scanFrom_escapeLiteral [] value.toList) hclose
  exact scanFrom_append hopen hinner

theorem begin_of_isNameStart {c : Char} (h : isNameStart c) : begin c = some ([], .word [c]) := by
  have hne : ∀ d : Char, isNameStart d = false → c ≠ d := by
    rintro d hd rfl
    simp [hd] at h
  have hspace : isSpace c = false := by
    simp [isSpace, hne ' ' rfl, hne '\t' rfl, hne '\n' rfl, hne '\r' rfl]
  simp [begin, hspace, hne '\'' rfl, hne '$' rfl, hne '=' rfl, hne '&' rfl, h]

theorem scanFrom_word (read : List Char) {more : List Char} (h : more.all isNamePart) :
    scanFrom (.word read) more = some ([], .word (read ++ more)) := by
  induction more generalizing read with
  | nil => simp [scanFrom]
  | cons c more ih =>
    obtain ⟨hc, hmore⟩ : isNamePart c ∧ more.all isNamePart := by simpa using h
    simp [scanFrom, scanChar, hc, ih (read ++ [c]) hmore]

theorem scanFrom_variable (c : Char) (read : List Char) {more : List Char}
    (h : more.all isNamePart) :
    scanFrom (.variable (c :: read)) more = some ([], .variable (c :: read ++ more)) := by
  induction more generalizing read with
  | nil => simp [scanFrom]
  | cons d more ih =>
    obtain ⟨hd, hmore⟩ : isNamePart d ∧ more.all isNamePart := by simpa using h
    simp [scanFrom, scanChar, hd, ih (read ++ [d]) hmore]

theorem exists_cons_of_isName {name : String} (h : isName name) :
    ∃ c rest, name.toList = c :: rest ∧ isNameStart c ∧ rest.all isNamePart := by
  unfold isName at h
  cases hn : name.toList with
  | nil => simp [hn] at h
  | cons c rest =>
    rw [hn] at h
    exact ⟨c, rest, rfl, by simpa using h⟩

theorem spells_word {name : String} (h : isName name) :
    Spells (name.toList ++ ['(']) [.word name, .mark .opening] := by
  obtain ⟨c, rest, hname, hc, hrest⟩ := exists_cons_of_isName h
  have hread : scanFrom .between [c] = some ([], .word [c]) := by
    simp [scanFrom, scanChar, begin_of_isNameStart hc]
  have hend : scanFrom (.word ([c] ++ rest)) ['('] =
      some ([.word name, .mark .opening], .between) := by
    have hback : String.ofList (c :: rest) = name := by rw [← hname, String.ofList_toList]
    simp [scanFrom, scanChar, isNamePart, isNameStart, hback]
    rfl
  rw [hname]
  exact scanFrom_append hread (scanFrom_append (scanFrom_word [c] hrest) hend)

theorem spells_target {name : String} (h : isName name) :
    Spells ('$' :: name.toList ++ [' ', '=', ' ']) [.variable name, .mark .equals] := by
  obtain ⟨c, rest, hname, hc, hrest⟩ := exists_cons_of_isName h
  have hread : scanFrom .between ['$', c] = some ([], .variable [c]) := by
    simp [scanFrom, scanChar, begin, isSpace, hc]
  have hend : scanFrom (.variable (c :: [] ++ rest)) [' ', '=', ' '] =
      some ([.variable name, .mark .equals], .between) := by
    have hback : String.ofList (c :: rest) = name := by rw [← hname, String.ofList_toList]
    simp [scanFrom, scanChar, isNamePart, isNameStart, hback]
    rfl
  rw [hname]
  exact scanFrom_append hread (scanFrom_append (scanFrom_variable c [] hrest) hend)

end ThemeBlocks.Php

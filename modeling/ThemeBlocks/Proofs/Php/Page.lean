import ThemeBlocks.Proofs.Php.Reader

/-! A PHP file as its sections: markup, which is shown as it stands, and code between an opening and a
closing tag. The lexer of code works inside the tags, so that a question mark in a literal ends nothing.
The opening tag is `<?php` in front of white space, and any other tag that `<?` begins is refused; one
line end right behind a closing tag is part of that tag. -/

namespace ThemeBlocks.Php

open Text

inductive Section
  | markup (text : String)
  | code (tokens : List Token)
  deriving Repr, DecidableEq

namespace Mode

def isLiteral : Mode → Bool
  | .literal _ | .escape _ => true
  | _ => false

def last? : Mode → Option (List Token)
  | .between => some []
  | .word read => some [.word (.ofList read)]
  | .variable (c :: read) => some [.variable (.ofList (c :: read))]
  | .pending .equals => some [.mark .equals]
  | _ => none

end Mode

inductive Place
  | markup (read : List Char)
  /-- In an opening tag, of which these characters are still to come, and white space behind them. -/
  | opening (rest : List Char)
  | code (tokens : List Token) (mode : Mode)
  /-- Behind a question mark that stands in no literal; the code ends here. -/
  | question (tokens : List Token)
  /-- Right behind a closing tag. -/
  | closed
  /-- Behind a closing tag and a carriage return. -/
  | returned
  deriving Repr, DecidableEq

structure Page where
  sections : List Section := []
  place : Place := .markup []
  deriving Repr, DecidableEq

namespace Page

def markupSection : List Char → List Section
  | [] => []
  | c :: text => [.markup (.ofList (c :: text))]

def nextMarkup (sections : List Section) (read : List Char) (c : Char) : Page :=
  if c = '?' ∧ read.getLast? = some '<' then
    ⟨sections ++ markupSection read.dropLast, .opening "php".toList⟩
  else ⟨sections, .markup (read ++ [c])⟩

def nextCode (sections : List Section) (tokens : List Token) (mode : Mode) (c : Char) : Option Page :=
  if c = '?' ∧ ¬ mode.isLiteral then
    mode.last?.map fun more => ⟨sections, .question (tokens ++ more)⟩
  else
    (scanChar mode c).map fun (more, mode) => ⟨sections, .code (tokens ++ more) mode⟩

def next : Page → Char → Option Page
  | ⟨sections, .markup read⟩, c => some (nextMarkup sections read c)
  | ⟨sections, .opening []⟩, c => if isSpace c then some ⟨sections, .code [] .between⟩ else none
  | ⟨sections, .opening (d :: rest)⟩, c => if c = d then some ⟨sections, .opening rest⟩ else none
  | ⟨sections, .code tokens mode⟩, c => nextCode sections tokens mode c
  | ⟨sections, .question tokens⟩, c =>
    if c = '>' then some ⟨sections ++ [.code tokens], .closed⟩ else none
  | ⟨sections, .closed⟩, c =>
    if c = '\n' then some ⟨sections, .markup []⟩
    else if c = '\r' then some ⟨sections, .returned⟩
    else some (nextMarkup sections [] c)
  | ⟨sections, .returned⟩, c =>
    if c = '\n' then some ⟨sections, .markup []⟩ else some (nextMarkup sections [] c)

def follow (page : Page) (text : List Char) : Option Page :=
  text.foldlM next page

def finish? : Page → Option (List Section)
  | ⟨sections, .markup read⟩ => some (sections ++ markupSection read)
  | ⟨sections, .code tokens mode⟩ =>
    mode.last?.map fun more => sections ++ [.code (tokens ++ more)]
  | ⟨sections, .closed⟩ | ⟨sections, .returned⟩ => some sections
  | _ => none

theorem follow_append (page : Page) (front back : List Char) :
    page.follow (front ++ back) = (page.follow front).bind (·.follow back) :=
  List.foldlM_append

end Page

def sections? (text : String) : Option (List Section) :=
  (Page.follow {} text.toList).bind Page.finish?

theorem begin_question : begin '?' = none := by
  decide

theorem isLiteral_of_scanChar {mode : Mode} {after : Scanned} (h : scanChar mode '?' = some after) :
    mode.isLiteral := by
  have hstart : isNameStart '?' = false := by decide
  have hpart : isNamePart '?' = false := by decide
  match mode with
  | .literal _ | .escape _ => rfl
  | .between => simp [scanChar, begin_question] at h
  | .word _ => simp [scanChar, hpart, beginAfter, begin_question] at h
  | .variable [] => simp [scanChar, hstart] at h
  | .variable (_ :: _) => simp [scanChar, hpart, beginAfter, begin_question] at h
  | .pending mark => cases mark <;> simp [scanChar, beginAfter, begin_question] at h

namespace Page

variable {sections : List Section}

theorem nextCode_of_scanChar {tokens more : List Token} {mode after : Mode} {c : Char}
    (h : scanChar mode c = some (more, after)) :
    nextCode sections tokens mode c = some ⟨sections, .code (tokens ++ more) after⟩ := by
  have hopen : ¬ (c = '?' ∧ ¬ mode.isLiteral) := by
    rintro ⟨rfl, hmode⟩
    exact hmode (isLiteral_of_scanChar h)
  rw [nextCode, if_neg hopen, h]
  rfl

/-- What is scanned as tokens ends no section of code. -/
theorem follow_code {text : List Char} {tokens more : List Token} {mode last : Mode}
    (h : scanFrom mode text = some (more, last)) :
    (⟨sections, .code tokens mode⟩ : Page).follow text =
      some ⟨sections, .code (tokens ++ more) last⟩ := by
  -- The page takes the steps of the scan; what the scan has read goes behind the tokens before it.
  induction text generalizing tokens more mode with
  | nil =>
    obtain ⟨rfl, rfl⟩ : [] = more ∧ mode = last := by simpa [scanFrom] using h
    simp [follow]
  | cons c text ih =>
    simp only [scanFrom, Option.bind_eq_bind, Option.bind_eq_some_iff] at h
    obtain ⟨⟨here, middle⟩, hc, ⟨later, final⟩, hrest, heq⟩ := h
    obtain ⟨rfl, rfl⟩ : here ++ later = more ∧ final = last := by simpa using heq
    have hnext : (⟨sections, .code tokens mode⟩ : Page).next c =
        some ⟨sections, .code (tokens ++ here) middle⟩ := nextCode_of_scanChar hc
    have htail : (⟨sections, .code (tokens ++ here) middle⟩ : Page).follow text =
        some ⟨sections, .code (tokens ++ here ++ later) final⟩ := ih hrest
    simpa [follow, hnext] using htail

theorem follow_opening :
    Page.follow {} "<?php\n".toList = some ⟨[], .code [] .between⟩ := rfl

theorem follow_closing (tokens : List Token) :
    (⟨sections, .code tokens .between⟩ : Page).follow "?>\n".toList =
      some ⟨sections ++ [.code tokens], .markup []⟩ := by
  simp [follow, next, nextCode, Mode.isLiteral, Mode.last?]

theorem nextMarkup_of_not_infix {read : List Char} {c : Char} (h : ¬ "<?".toList <:+: read ++ [c]) :
    nextMarkup sections read c = ⟨sections, .markup (read ++ [c])⟩ := by
  have htag : ¬ (c = '?' ∧ read.getLast? = some '<') := by
    rintro ⟨rfl, hlast⟩
    obtain ⟨front, rfl⟩ := List.getLast?_eq_some_iff.1 hlast
    exact h ⟨front, [], by simp⟩
  simp [nextMarkup, htag]

theorem follow_markup {read text : List Char} (h : ¬ "<?".toList <:+: read ++ text) :
    (⟨sections, .markup read⟩ : Page).follow text = some ⟨sections, .markup (read ++ text)⟩ := by
  induction text generalizing read with
  | nil => simp [follow]
  | cons c text ih =>
    -- A tag that begins within the characters read so far begins within the whole.
    have hback : read ++ c :: text = read ++ [c] ++ text := by simp
    rw [hback] at h
    have hfirst : ¬ "<?".toList <:+: read ++ [c] := fun htag =>
      h (htag.trans (List.prefix_append _ _).isInfix)
    have hnext : (⟨sections, .markup read⟩ : Page).next c = some ⟨sections, .markup (read ++ [c])⟩ := by
      rw [next, nextMarkup_of_not_infix hfirst]
    rw [hback]
    simpa [follow, hnext] using ih h

end Page

/-- Code between the two tags, and markup up to the end of the file. -/
theorem sections?_code_markup {code html : String} {tokens : List Token}
    (hcode : Spells code.toList tokens) (hne : html ≠ "") (htag : ¬ "<?".toList <:+: html.toList) :
    sections? ("<?php\n" ++ code ++ "?>\n" ++ html) = some [.code tokens, .markup html] := by
  have hmarkup : (⟨[.code tokens], .markup []⟩ : Page).follow html.toList =
      some ⟨[.code tokens], .markup html.toList⟩ := Page.follow_markup htag
  have hend : Page.finish? ⟨[.code tokens], .markup html.toList⟩ =
      some [.code tokens, .markup html] := by
    obtain ⟨c, text, htext⟩ := List.exists_cons_of_ne_nil (mt String.toList_eq_nil_iff.1 hne)
    rw [Page.finish?, htext, Page.markupSection, ← htext, String.ofList_toList]
    rfl
  simp only [sections?, String.toList_append, Page.follow_append, Page.follow_opening,
    Option.bind_some, Page.follow_code hcode, List.nil_append, Page.follow_closing, hmarkup, hend]

example :
    sections? "<b>?</b><?php\n$a = f('?>');\n?>\nc ? d" =
      some [.markup "<b>?</b>",
        .code [.variable "a", .mark .equals, .word "f", .mark .opening, .literal "?>", .mark .closing,
          .mark .semicolon],
        .markup "c ? d"] := by
  decide +kernel

end ThemeBlocks.Php

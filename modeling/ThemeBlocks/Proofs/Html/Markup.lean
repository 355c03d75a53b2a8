import ThemeBlocks.Php.Literal

/-! Markup as a browser reads it: texts between tags, and five entities for the characters that have a
meaning of their own. The reader covers start tags whose attributes stand in double quotes, and end
tags; a character that goes beyond this is refused. -/

namespace ThemeBlocks.Html

open Text
open Php (markupChar escapeMarkup)

/-- An ampersand that begins none of the five entities is refused. -/
def decodeChars? : List Char → Option (List Char)
  | [] => some []
  | '&' :: 'a' :: 'm' :: 'p' :: ';' :: rest => (decodeChars? rest).map ('&' :: ·)
  | '&' :: 'l' :: 't' :: ';' :: rest => (decodeChars? rest).map ('<' :: ·)
  | '&' :: 'g' :: 't' :: ';' :: rest => (decodeChars? rest).map ('>' :: ·)
  | '&' :: 'q' :: 'u' :: 'o' :: 't' :: ';' :: rest => (decodeChars? rest).map ('"' :: ·)
  | '&' :: '#' :: '0' :: '3' :: '9' :: ';' :: rest => (decodeChars? rest).map ('\'' :: ·)
  | c :: rest => if c = '&' then none else (decodeChars? rest).map (c :: ·)

def decode? (raw : String) : Option String :=
  (decodeChars? raw.toList).map .ofList

theorem decodeChars?_cons {c : Char} (h : c ≠ '&') (rest : List Char) :
    decodeChars? (c :: rest) = (decodeChars? rest).map (c :: ·) := by
  rw [decodeChars?]
  · simp [h]
  all_goals simp [h]

theorem decodeChars?_markupChar (c : Char) (rest : List Char) :
    decodeChars? (markupChar c ++ rest) = (decodeChars? rest).map (c :: ·) := by
  unfold markupChar
  split
  · rfl
  · rfl
  · rfl
  · rfl
  · rfl
  · next hamp _ _ _ _ => exact decodeChars?_cons hamp rest

theorem decodeChars?_flatMap (text : List Char) : decodeChars? (text.flatMap markupChar) = some text := by
  induction text with
  | nil => rfl
  | cons c text ih => rw [List.flatMap_cons, decodeChars?_markupChar, ih, Option.map_some]

theorem decode?_escapeMarkup (text : String) : decode? (escapeMarkup text) = some text := by
  simp [decode?, escapeMarkup, decodeChars?_flatMap]

theorem escapeMarkup_append (front back : String) :
    escapeMarkup (front ++ back) = escapeMarkup front ++ escapeMarkup back := by
  apply String.toList_injective
  simp [escapeMarkup]

theorem not_mem_markupChar (c : Char) : ∀ mark ∈ ['<', '>', '"', '\''], mark ∉ markupChar c := by
  unfold markupChar
  split
  · simp
  · simp
  · simp
  · simp
  · simp
  · next _ hleft hright hquote hsingle =>
    simpa [eq_comm] using ⟨hleft, hright, hquote, hsingle⟩

theorem not_mem_escapeMarkup (text : String) :
    ∀ mark ∈ ['<', '>', '"', '\''], mark ∉ (escapeMarkup text).toList := by
  intro mark hmark hmem
  obtain ⟨c, -, hc⟩ : ∃ c ∈ text.toList, mark ∈ markupChar c := by simpa [escapeMarkup] using hmem
  exact not_mem_markupChar c mark hmark hc

inductive Piece
  /-- What stands between two tags, as it is written; it may be empty. -/
  | text (raw : String)
  | opening (name : String) (attributes : List (String × String))
  | closing (name : String)
  deriving Repr, DecidableEq

structure StartTag where
  name : String
  attributes : List (String × String) := []
  deriving Repr, DecidableEq

namespace StartTag

def add (tag : StartTag) (name value : List Char) : StartTag :=
  { tag with attributes := tag.attributes ++ [(.ofList name, .ofList value)] }

def piece (tag : StartTag) : Piece :=
  .opening tag.name tag.attributes

end StartTag

inductive Place
  | text (read : List Char)
  | bracket
  | closing (name : List Char)
  | opening (name : List Char)
  | gap (tag : StartTag)
  | attribute (tag : StartTag) (name : List Char)
  | assigned (tag : StartTag) (name : List Char)
  | value (tag : StartTag) (name read : List Char)
  deriving Repr, DecidableEq

/-- A name begins with a letter; tags and attributes are named in small letters. -/
def continuesName (read : List Char) (c : Char) : Bool :=
  isAsciiLower c || (!read.isEmpty && (isAsciiDigit c || c = '-'))

def isGap (c : Char) : Bool :=
  c = ' ' || c = '\t' || c = '\n' || c = '\x0c' || c = '\r'

structure Reading where
  pieces : List Piece := []
  place : Place := .text []
  deriving Repr, DecidableEq

namespace Reading

def next : Reading → Char → Option Reading
  | ⟨pieces, .text read⟩, c =>
    if c = '<' then some ⟨pieces ++ [.text (.ofList read)], .bracket⟩
    else some ⟨pieces, .text (read ++ [c])⟩
  | ⟨pieces, .bracket⟩, c =>
    if c = '/' then some ⟨pieces, .closing []⟩
    else if continuesName [] c then some ⟨pieces, .opening [c]⟩ else none
  | ⟨pieces, .closing name⟩, c =>
    if c = '>' ∧ name ≠ [] then some ⟨pieces ++ [.closing (.ofList name)], .text []⟩
    else if continuesName name c then some ⟨pieces, .closing (name ++ [c])⟩ else none
  | ⟨pieces, .opening name⟩, c =>
    if c = '>' then some ⟨pieces ++ [.opening (.ofList name) []], .text []⟩
    else if isGap c then some ⟨pieces, .gap { name := .ofList name }⟩
    else if continuesName name c then some ⟨pieces, .opening (name ++ [c])⟩ else none
  | ⟨pieces, .gap tag⟩, c =>
    if c = '>' then some ⟨pieces ++ [tag.piece], .text []⟩
    else if isGap c then some ⟨pieces, .gap tag⟩
    else if continuesName [] c then some ⟨pieces, .attribute tag [c]⟩ else none
  | ⟨pieces, .attribute tag name⟩, c =>
    if c = '=' then some ⟨pieces, .assigned tag name⟩
    else if continuesName name c then some ⟨pieces, .attribute tag (name ++ [c])⟩ else none
  | ⟨pieces, .assigned tag name⟩, c =>
    if c = '"' then some ⟨pieces, .value tag name []⟩ else none
  | ⟨pieces, .value tag name read⟩, c =>
    if c = '"' then some ⟨pieces, .gap (tag.add name read)⟩
    else some ⟨pieces, .value tag name (read ++ [c])⟩

def follow (reading : Reading) (text : List Char) : Option Reading :=
  text.foldlM next reading

theorem follow_append {reading middle : Reading} {after : Option Reading} {front back : List Char}
    (hf : reading.follow front = some middle) (hb : middle.follow back = after) :
    reading.follow (front ++ back) = after := by
  rw [follow, List.foldlM_append, ← follow, hf]
  exact hb

def finish? : Reading → Option (List Piece)
  | ⟨pieces, .text read⟩ => some (pieces ++ [.text (.ofList read)])
  | _ => none

variable {pieces : List Piece}

theorem follow_collect {place : List Char → Place} {read text : List Char}
    (h : ∀ c ∈ text, ∀ read, (⟨pieces, place read⟩ : Reading).next c =
      some ⟨pieces, place (read ++ [c])⟩) :
    (⟨pieces, place read⟩ : Reading).follow text = some ⟨pieces, place (read ++ text)⟩ := by
  induction text generalizing read with
  | nil => simp [follow]
  | cons c text ih =>
    obtain ⟨hc, htext⟩ := List.forall_mem_cons.1 h
    have htail : (⟨pieces, place (read ++ [c])⟩ : Reading).follow text =
        some ⟨pieces, place (read ++ [c] ++ text)⟩ := ih htext
    simpa [follow, hc read] using htail

theorem follow_text {read text : List Char} (h : '<' ∉ text) :
    (⟨pieces, .text read⟩ : Reading).follow text = some ⟨pieces, .text (read ++ text)⟩ := by
  apply follow_collect
  intro c hc read
  have hne : c ≠ '<' := ne_of_mem_of_not_mem hc h
  simp [next, hne]

theorem follow_value {tag : StartTag} {name read text : List Char} (h : '"' ∉ text) :
    (⟨pieces, .value tag name read⟩ : Reading).follow text =
      some ⟨pieces, .value tag name (read ++ text)⟩ := by
  apply follow_collect
  intro c hc read
  have hne : c ≠ '"' := ne_of_mem_of_not_mem hc h
  simp [next, hne]

end Reading

def pieces? (text : String) : Option (List Piece) :=
  (Reading.follow {} text.toList).bind Reading.finish?

end ThemeBlocks.Html

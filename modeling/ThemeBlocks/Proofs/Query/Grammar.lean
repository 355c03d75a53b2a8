import ThemeBlocks.Text.Class

/-! The part of GraphQL's grammar that stands between the braces of a query: selections. A scanner takes a
text one character after the other; blanks, line ends, commas and comments separate tokens and are none
themselves. A reader takes the tokens and keeps the selection sets that are open. Values, and with them
arguments and directives, are left out: a text that has any is refused. Whatever is read, the type
condition of a fragment is a name. -/

namespace ThemeBlocks.Query

open Text

def isNameStart (c : Char) : Bool :=
  isAsciiLetter c || c = '_'

def isNamePart (c : Char) : Bool :=
  isNameStart c || isAsciiDigit c

/-- A letter or an underscore, and then letters, underscores and digits, all of ASCII. -/
def isNameText : List Char → Bool
  | [] => false
  | c :: rest => isNameStart c && rest.all isNamePart

def isName (text : String) : Bool :=
  isNameText text.toList

theorem isNameText_concat {text : List Char} {c : Char} (h : isNameText text) (hc : isNamePart c) :
    isNameText (text ++ [c]) := by
  cases text with
  | nil => simp [isNameText] at h
  | cons d rest =>
    simp only [isNameText, Bool.and_eq_true, List.all_eq_true] at h
    simpa [isNameText, h.1, hc] using h.2

inductive Token
  | name (text : String)
  | spread
  | mark (c : Char)
  deriving Repr, DecidableEq

def isIgnored (c : Char) : Bool :=
  c = ' ' || c = '\t' || c = '\n' || c = '\r' || c = ',' || c = '\ufeff'

def isMark (c : Char) : Bool :=
  c ∈ ['!', '$', '&', '(', ')', ':', '=', '@', '[', ']', '{', '|', '}']

inductive Mode
  | between
  | name (read : List Char)
  | dot
  | dots
  | comment
  deriving Repr, DecidableEq

/-- The tokens so far, the last one first. -/
structure Scan where
  tokens : List Token := []
  mode : Mode := .between
  deriving Repr, DecidableEq

namespace Scan

def begin (tokens : List Token) (c : Char) : Option Scan :=
  if isIgnored c then some ⟨tokens, .between⟩
  else if c = '#' then some ⟨tokens, .comment⟩
  else if c = '.' then some ⟨tokens, .dot⟩
  else if isNameStart c then some ⟨tokens, .name [c]⟩
  else if isMark c then some ⟨.mark c :: tokens, .between⟩
  else none

def next : Scan → Char → Option Scan
  | ⟨tokens, .between⟩, c => begin tokens c
  | ⟨tokens, .name read⟩, c =>
    if isNamePart c then some ⟨tokens, .name (read ++ [c])⟩
    else begin (.name (.ofList read) :: tokens) c
  | ⟨tokens, .dot⟩, c => if c = '.' then some ⟨tokens, .dots⟩ else none
  | ⟨tokens, .dots⟩, c => if c = '.' then some ⟨.spread :: tokens, .between⟩ else none
  | ⟨tokens, .comment⟩, c =>
    if c = '\n' ∨ c = '\r' then some ⟨tokens, .between⟩ else some ⟨tokens, .comment⟩

def follow (scan : Scan) (text : List Char) : Option Scan :=
  text.foldlM next scan

def finish : Scan → Option (List Token)
  | ⟨tokens, .between⟩ | ⟨tokens, .comment⟩ => some tokens.reverse
  | ⟨tokens, .name read⟩ => some (tokens.reverse ++ [.name (.ofList read)])
  | _ => none

end Scan

def scan (text : String) : Option (List Token) :=
  (Scan.follow {} text.toList).bind Scan.finish

inductive Selection
  | field (label : Option String) (name : String) (selections : List Selection)
  | spread (name : String)
  | inline (type : Option String) (selections : List Selection)
  deriving Repr

def Selection.type? : Selection → Option String
  | .inline type _ => type
  | _ => none

inductive Owner
  | field (label : Option String) (name : String)
  | inline (type : Option String)
  deriving Repr

namespace Owner

def toSelection : Owner → List Selection → Selection
  | .field label name, selections => .field label name selections
  | .inline type, selections => .inline type selections

def type? : Owner → Option String
  | .inline type => type
  | _ => none

end Owner

inductive Phase
  /-- A selection comes next, or the set ends. -/
  | fresh
  /-- Behind the name of a field, which may have selections. -/
  | field (label : Option String) (name : String)
  /-- Behind the colon of a label. -/
  | labelled (label : String)
  | spread
  /-- Behind the word `on` of a type condition. -/
  | on
  | typed (type : String)
  deriving Repr

/-- The open selection sets, the innermost first, each with the selections in front of it; the selections
read so far; and what has been begun of the next one. -/
structure Reading where
  opened : List (List Selection × Owner) := []
  selections : List Selection := []
  phase : Phase := .fresh

namespace Reading

def openSet (reading : Reading) (owner : Owner) : Reading where
  opened := (reading.selections, owner) :: reading.opened

/-- A selection set is not empty. -/
def closeSet (reading : Reading) : Option Reading :=
  match reading.opened, reading.selections with
  | (before, owner) :: opened, selection :: selections =>
    some { opened, selections := before ++ [owner.toSelection (selection :: selections)] }
  | _, _ => none

def add (reading : Reading) (selection : Selection) : Reading where
  opened := reading.opened
  selections := reading.selections ++ [selection]

def begin (reading : Reading) : Token → Option Reading
  | .name name => some { reading with phase := .field none name }
  | .spread => some { reading with phase := .spread }
  | .mark '}' => reading.closeSet
  | _ => none

def next (reading : Reading) (token : Token) : Option Reading :=
  match reading.phase, token with
  | .fresh, token => reading.begin token
  | .field label name, .mark '{' => some (reading.openSet (.field label name))
  | .field none name, .mark ':' => some { reading with phase := .labelled name }
  | .field label name, token => (reading.add (.field label name [])).begin token
  | .labelled label, .name name => some { reading with phase := .field (some label) name }
  | .spread, .name "on" => some { reading with phase := .on }
  | .spread, .name name => some (reading.add (.spread name))
  | .spread, .mark '{' => some (reading.openSet (.inline none))
  | .on, .name type => some { reading with phase := .typed type }
  | .typed type, .mark '{' => some (reading.openSet (.inline (some type)))
  | _, _ => none

def follow (reading : Reading) (tokens : List Token) : Option Reading :=
  tokens.foldlM next reading

def finish (reading : Reading) : Option (List Selection) :=
  match reading.opened, reading.phase with
  | [], .fresh => some reading.selections
  | [], .field label name => some (reading.selections ++ [.field label name []])
  | _, _ => none

end Reading

def readSelections? (text : String) : Option (List Selection) := do
  let tokens ← scan text
  let reading ← Reading.follow {} tokens
  reading.finish

def Token.Named (token : Token) : Prop :=
  ∀ text, token = .name text → isName text

theorem isName_ofList {text : List Char} (h : isNameText text) : isName (.ofList text) := by
  rwa [isName, String.toList_ofList]

namespace Scan

structure Named (scan : Scan) : Prop where
  tokens : ∀ token ∈ scan.tokens, token.Named
  mode : ∀ read, scan.mode = .name read → isNameText read

theorem named_begin {tokens : List Token} {c : Char} {after : Scan}
    (named : ∀ token ∈ tokens, token.Named) (h : begin tokens c = some after) : after.Named := by
  unfold begin at h
  split at h
  · cases h
    exact ⟨named, by simp⟩
  split at h
  · cases h
    exact ⟨named, by simp⟩
  split at h
  · cases h
    exact ⟨named, by simp⟩
  split at h
  · cases h
    refine ⟨named, ?_⟩
    rintro _ ⟨⟩
    simpa [isNameText]
  split at h
  · cases h
    refine ⟨List.forall_mem_cons.2 ⟨?_, named⟩, by simp⟩
    simp [Token.Named]
  · cases h

theorem Named.next {scan after : Scan} {c : Char} (named : scan.Named) (h : scan.next c = some after) :
    after.Named := by
  obtain ⟨tokens, mode⟩ := scan
  obtain ⟨htokens, hmode⟩ := named
  cases mode with
  | between => exact named_begin htokens h
  | name read =>
    have hread : isNameText read := hmode read rfl
    rw [Scan.next] at h
    split at h
    · next hc =>
      cases h
      refine ⟨htokens, ?_⟩
      rintro _ ⟨⟩
      exact isNameText_concat hread hc
    · refine named_begin (List.forall_mem_cons.2 ⟨?_, htokens⟩) h
      rintro _ ⟨⟩
      exact isName_ofList hread
  | dot =>
    rw [Scan.next] at h
    split at h <;> cases h
    exact ⟨htokens, by simp⟩
  | dots =>
    rw [Scan.next] at h
    split at h <;> cases h
    refine ⟨List.forall_mem_cons.2 ⟨?_, htokens⟩, by simp⟩
    simp [Token.Named]
  | comment =>
    rw [Scan.next] at h
    split at h <;> cases h <;> exact ⟨htokens, by simp⟩

theorem Named.follow {scan after : Scan} {text : List Char} (named : scan.Named)
    (h : scan.follow text = some after) : after.Named := by
  induction text generalizing scan with
  | nil =>
    obtain rfl : scan = after := by simpa [Scan.follow] using h
    exact named
  | cons c text ih =>
    obtain ⟨middle, hnext, hrest⟩ : ∃ middle, scan.next c = some middle ∧
        middle.follow text = some after := by
      simpa [Scan.follow, Option.bind_eq_some_iff] using h
    exact ih (named.next hnext) hrest

theorem Named.finish {scan : Scan} {tokens : List Token} (named : scan.Named)
    (h : scan.finish = some tokens) : ∀ token ∈ tokens, token.Named := by
  obtain ⟨read, mode⟩ := scan
  obtain ⟨htokens, hmode⟩ := named
  cases mode with
  | between | comment =>
    cases h
    simpa using htokens
  | name text =>
    cases h
    refine List.forall_mem_append.2 ⟨by simpa using htokens, List.forall_mem_singleton.2 ?_⟩
    rintro _ ⟨⟩
    exact isName_ofList (hmode text rfl)
  | dot | dots => cases h

end Scan

theorem named_of_scan {text : String} {tokens : List Token} (h : scan text = some tokens) :
    ∀ token ∈ tokens, token.Named := by
  obtain ⟨after, hfollow, hfinish⟩ := Option.bind_eq_some_iff.1 h
  have hstart : Scan.Named {} := ⟨by simp, by simp⟩
  exact (hstart.follow hfollow).finish hfinish

namespace Reading

structure Named (reading : Reading) : Prop where
  opened : ∀ set ∈ reading.opened, (∀ selection ∈ set.1, ∀ type ∈ selection.type?, isName type) ∧
    ∀ type ∈ set.2.type?, isName type
  selections : ∀ selection ∈ reading.selections, ∀ type ∈ selection.type?, isName type
  phase : ∀ type, reading.phase = .typed type → isName type

theorem Named.openSet {reading : Reading} {owner : Owner} (named : reading.Named)
    (h : ∀ type ∈ owner.type?, isName type) : (reading.openSet owner).Named where
  opened := List.forall_mem_cons.2 ⟨⟨named.selections, h⟩, named.opened⟩
  selections := by simp [Reading.openSet]
  phase := by simp [Reading.openSet]

theorem Named.add {reading : Reading} {selection : Selection} (named : reading.Named)
    (h : ∀ type ∈ selection.type?, isName type) : (reading.add selection).Named where
  opened := named.opened
  selections := List.forall_mem_append.2 ⟨named.selections, List.forall_mem_singleton.2 h⟩
  phase := by simp [Reading.add]

theorem type?_toSelection (owner : Owner) (selections : List Selection) :
    (owner.toSelection selections).type? = owner.type? := by
  cases owner <;> rfl

theorem Named.closeSet {reading after : Reading} (named : reading.Named)
    (h : reading.closeSet = some after) : after.Named := by
  obtain ⟨opened, selections, phase⟩ := reading
  unfold Reading.closeSet at h
  split at h
  · next before owner opened selection selections hopened _ =>
    cases h
    have hopened : ∀ set ∈ (before, owner) :: opened, _ := hopened ▸ named.opened
    obtain ⟨⟨hbefore, howner⟩, hrest⟩ := List.forall_mem_cons.1 hopened
    refine ⟨hrest, List.forall_mem_append.2 ⟨hbefore, List.forall_mem_singleton.2 ?_⟩, by simp⟩
    rwa [type?_toSelection]
  · cases h

theorem Named.begin {reading after : Reading} {token : Token} (named : reading.Named)
    (h : reading.begin token = some after) : after.Named := by
  unfold Reading.begin at h
  split at h
  · cases h
    exact ⟨named.opened, named.selections, by simp⟩
  · cases h
    exact ⟨named.opened, named.selections, by simp⟩
  · exact named.closeSet h
  · cases h

theorem Named.next {reading after : Reading} {token : Token} (named : reading.Named)
    (name : token.Named) (h : reading.next token = some after) : after.Named := by
  unfold Reading.next at h
  split at h
  · exact named.begin h
  · cases h
    exact named.openSet (by simp [Owner.type?])
  · cases h
    exact ⟨named.opened, named.selections, by simp⟩
  · exact (named.add (by simp [Selection.type?])).begin h
  · cases h
    exact ⟨named.opened, named.selections, by simp⟩
  · cases h
    exact ⟨named.opened, named.selections, by simp⟩
  · cases h
    exact named.add (by simp [Selection.type?])
  · cases h
    exact named.openSet (by simp [Owner.type?])
  · next type _ =>
    cases h
    refine ⟨named.opened, named.selections, ?_⟩
    rintro _ ⟨⟩
    exact name type rfl
  · next type hphase =>
    cases h
    refine named.openSet ?_
    rintro _ ⟨⟩
    exact named.phase type hphase
  · cases h

theorem Named.follow {reading after : Reading} {tokens : List Token} (named : reading.Named)
    (names : ∀ token ∈ tokens, token.Named) (h : reading.follow tokens = some after) :
    after.Named := by
  induction tokens generalizing reading with
  | nil =>
    obtain rfl : reading = after := by simpa [Reading.follow] using h
    exact named
  | cons token tokens ih =>
    obtain ⟨middle, hnext, hrest⟩ : ∃ middle, reading.next token = some middle ∧
        middle.follow tokens = some after := by
      simpa [Reading.follow, Option.bind_eq_some_iff] using h
    obtain ⟨htoken, htokens⟩ := List.forall_mem_cons.1 names
    exact ih (named.next htoken hnext) htokens hrest

theorem Named.finish {reading : Reading} {selections : List Selection} (named : reading.Named)
    (h : reading.finish = some selections) :
    ∀ selection ∈ selections, ∀ type ∈ selection.type?, isName type := by
  unfold Reading.finish at h
  split at h
  · cases h
    exact named.selections
  · cases h
    exact (named.add (by simp [Selection.type?])).selections
  · cases h

end Reading

/-- Whatever a text holds, the type conditions that are read from it are names. -/
theorem isName_of_readSelections? {text : String} {selections : List Selection}
    (h : readSelections? text = some selections) :
    ∀ selection ∈ selections, ∀ type ∈ selection.type?, isName type := by
  simp only [readSelections?, Option.bind_eq_bind, Option.bind_eq_some_iff] at h
  obtain ⟨tokens, hscan, reading, hfollow, hfinish⟩ := h
  have hstart : Reading.Named {} := ⟨by simp, by simp, by simp⟩
  exact (hstart.follow (named_of_scan hscan) hfollow).finish hfinish

end ThemeBlocks.Query

import ThemeBlocks.Php.Expr

/-! Induction over PHP expressions, and their layout as characters: arguments and plain items are joined
by commas, and the items of any other array stand in lines of their own. -/

namespace ThemeBlocks.Php

open Text

def isNameStart (c : Char) : Bool :=
  isAsciiLetter c || c = '_' || '\u0080' ≤ c

def isNamePart (c : Char) : Bool :=
  isNameStart c || isAsciiDigit c

/-- An identifier. Every character beyond ASCII may be part of one, as its bytes may. -/
def isName (name : String) : Bool :=
  match name.toList with
  | [] => false
  | c :: rest => isNameStart c && rest.all isNamePart

theorem not_mem_of_isName {name : String} (h : isName name) {c : Char} (hc : isNamePart c = false) :
    c ∉ name.toList := by
  intro hmem
  unfold isName at h
  cases hname : name.toList with
  | nil => simp [hname] at hmem
  | cons d rest =>
    simp only [hname, Bool.and_eq_true, List.all_eq_true] at h hmem
    rcases List.mem_cons.1 hmem with rfl | hrest
    · simp [isNamePart, h.1] at hc
    · simp [h.2 c hrest] at hc

def isPlainName (name : String) : Bool :=
  match name.toList with
  | [] => false
  | c :: rest => (isAsciiLetter c || c = '_') && rest.all fun d => isAsciiAlphanumeric d || d = '_'

theorem isNamePart_of_plain {c : Char} (h : isAsciiAlphanumeric c || c = '_') : isNamePart c := by
  simp only [isAsciiAlphanumeric, Bool.or_eq_true] at h
  rcases h with (h | h) | h
  · simp [isNamePart, isNameStart, h]
  · simp [isNamePart, h]
  · simp_all [isNamePart, isNameStart]

theorem isName_of_isPlainName {name : String} (h : isPlainName name) : isName name := by
  unfold isPlainName at h
  unfold isName
  cases hn : name.toList with
  | nil => simp [hn] at h
  | cons c rest =>
    simp only [hn, Bool.and_eq_true, List.all_eq_true] at h ⊢
    exact ⟨by simp [isNameStart, h.1], fun d hd => isNamePart_of_plain (h.2 d hd)⟩

theorem identifierChar_plain (c : Char) :
    isAsciiAlphanumeric (identifierChar c) || identifierChar c = '_' := by
  by_cases h : isAsciiAlphanumeric c <;> simp [identifierChar, h]

theorem isPlainName_identifier (key : String) : isPlainName (identifier key) := by
  have htail : ∀ text : List Char,
      (text.map identifierChar).all fun d => isAsciiAlphanumeric d || d = '_' := by
    simpa using fun _ c _ => by simpa using identifierChar_plain c
  cases ht : key.toList with
  | nil => simp [isPlainName, identifier, ht, startIdentifier]
  | cons c text =>
    cases hd : isAsciiDigit (identifierChar c) with
    | true =>
      have hall := htail (c :: text)
      simpa [isPlainName, identifier, ht, startIdentifier, hd] using hall
    | false =>
      have hc : isAsciiLetter (identifierChar c) || identifierChar c = '_' := by
        simpa [isAsciiAlphanumeric, hd] using identifierChar_plain c
      have hall := htail text
      simpa [isPlainName, identifier, ht, startIdentifier, hd, hc] using hall

theorem isName_identifier (key : String) : isName (identifier key) :=
  isName_of_isPlainName (isPlainName_identifier key)

namespace Expr

@[induction_eliminator]
theorem induction {motive : Expr → Prop} (text : ∀ value, motive (.text value))
    (call : ∀ function args, (∀ arg ∈ args, motive arg) → motive (.call function args))
    (array : ∀ items, (∀ item ∈ items, motive item.2) → motive (.array items)) (expr : Expr) :
    motive expr :=
  @Expr.rec motive (fun args => ∀ arg ∈ args, motive arg)
    (fun items => ∀ item ∈ items, motive item.2) (fun item => motive item.2)
    text call array (by simp) (fun _ _ head tail => List.forall_mem_cons.2 ⟨head, tail⟩)
    (by simp) (fun _ _ head tail => List.forall_mem_cons.2 ⟨head, tail⟩) (fun _ _ value => value) expr

def chars (expr : Expr) (depth : Nat) : List Char :=
  (expr.render depth).toList

def keyChars (key : Option String) : List Char :=
  (keyText key).toList

def commaChars (pieces : List (List Char)) : List Char :=
  List.intercalate [',', ' '] pieces

def lineChars (depth : Nat) (item : Option String × Expr) : List Char :=
  margin depth ++ keyChars item.1 ++ item.2.chars depth ++ [',', '\n']

theorem toList_renderArgs (args : List Expr) (depth : Nat) :
    (renderArgs args depth).toList = commaChars (args.map (·.chars depth)) := by
  induction args with
  | nil => rfl
  | cons arg args ih =>
    cases args with
    | nil => simp [renderArgs, commaChars, chars]
    | cons next args =>
      rw [renderArgs.eq_3 _ _ _ (by simp), String.toList_append, String.toList_append, ih]
      simp [commaChars, chars]

theorem toList_renderRow (items : List (Option String × Expr)) (depth : Nat) :
    (renderRow items depth).toList = commaChars (items.map (·.2.chars depth)) := by
  induction items with
  | nil => rfl
  | cons item items ih =>
    cases items with
    | nil => simp [renderRow, commaChars, chars]
    | cons next items =>
      rw [renderRow.eq_3 _ _ _ _ (by simp), String.toList_append, String.toList_append, ih]
      simp [commaChars, chars]

theorem toList_renderItems (items : List (Option String × Expr)) (depth : Nat) :
    (renderItems items depth).toList = items.flatMap (lineChars depth) := by
  induction items with
  | nil => rfl
  | cons item items ih =>
    simp [renderItems, ih, lineChars, keyChars, chars, marginText]

theorem chars_text (value : String) (depth : Nat) :
    (Expr.text value).chars depth = '\'' :: escapeLiteral value.toList ++ ['\''] := by
  simp [chars, render, quote]

theorem chars_call (function : String) (args : List Expr) (depth : Nat) :
    (Expr.call function args).chars depth =
      function.toList ++ '(' :: commaChars (args.map (·.chars depth)) ++ [')'] := by
  simp [chars, render, toList_renderArgs]

theorem chars_row {items : List (Option String × Expr)} (plain : items.all isPlainItem)
    (depth : Nat) :
    (Expr.array items).chars depth =
      "array".toList ++ '(' :: commaChars (items.map (·.2.chars depth)) ++ [')'] := by
  cases items with
  | nil => simp [chars, render, commaChars]
  | cons item items => simp [chars, render, plain, toList_renderRow]

theorem chars_lines {items : List (Option String × Expr)} (uneven : ¬ items.all isPlainItem)
    (depth : Nat) :
    (Expr.array items).chars depth =
      "array".toList ++
        '(' :: '\n' :: (items.flatMap (lineChars (depth + 1)) ++ margin depth) ++ [')'] := by
  cases items with
  | nil => simp at uneven
  | cons item items => simp [chars, render, uneven, toList_renderItems, marginText]

theorem isPlainItem_iff {item : Option String × Expr} :
    isPlainItem item ↔ ∃ value, item = (none, .text value) := by
  rcases item with ⟨_ | key, _ | _ | _⟩ <;> simp [isPlainItem]

/-- Every function that is called has a name which PHP takes for that of a function. -/
inductive WellNamed : Expr → Prop
  | text (value : String) : WellNamed (.text value)
  | call {function : String} {args : List Expr} : isName function → function ≠ "array" →
      (∀ arg ∈ args, WellNamed arg) → WellNamed (.call function args)
  | array {items : List (Option String × Expr)} : (∀ item ∈ items, WellNamed item.2) →
      WellNamed (.array items)

@[simp] theorem wellNamed_text (value : String) : WellNamed (.text value) :=
  .text value

@[simp] theorem wellNamed_call {function : String} {args : List Expr} :
    WellNamed (.call function args) ↔
      isName function ∧ function ≠ "array" ∧ ∀ arg ∈ args, WellNamed arg := by
  constructor
  · rintro ⟨⟩
    exact ⟨‹_›, ‹_›, ‹_›⟩
  · rintro ⟨hname, harray, hargs⟩
    exact .call hname harray hargs

@[simp] theorem wellNamed_array {items : List (Option String × Expr)} :
    WellNamed (.array items) ↔ ∀ item ∈ items, WellNamed item.2 := by
  constructor
  · rintro ⟨⟩
    assumption
  · exact .array

@[simp] theorem wellNamed_sequence {items : List Expr} :
    WellNamed (.sequence items) ↔ ∀ item ∈ items, WellNamed item := by
  simp [sequence]

@[simp] theorem wellNamed_texts (values : List String) : WellNamed (.texts values) := by
  simp [texts]

@[simp] theorem wellNamed_assoc {entries : List (String × Expr)} :
    WellNamed (.assoc entries) ↔ ∀ entry ∈ entries, WellNamed entry.2 := by
  rw [assoc, wellNamed_array]
  exact List.forall_mem_map

mutual

def mapTexts (change : String → String) : Expr → Expr
  | .text value => .text (change value)
  | .call function args => .call function (mapArgs change args)
  | .array items => .array (mapItems change items)
termination_by structural expr => expr

def mapArgs (change : String → String) : List Expr → List Expr
  | [] => []
  | arg :: args => arg.mapTexts change :: mapArgs change args
termination_by structural args => args

def mapItems (change : String → String) :
    List (Option String × Expr) → List (Option String × Expr)
  | [] => []
  | (key, value) :: items => (key.map change, value.mapTexts change) :: mapItems change items
termination_by structural items => items

end

variable (change : String → String)

theorem mapTexts_call (function : String) (args : List Expr) :
    (Expr.call function args).mapTexts change = .call function (args.map (mapTexts change)) := by
  rw [mapTexts]
  congr 1
  induction args with
  | nil => rfl
  | cons arg args ih => simp [mapArgs, ih]

theorem mapTexts_array (items : List (Option String × Expr)) :
    (Expr.array items).mapTexts change =
      .array (items.map fun item => (item.1.map change, item.2.mapTexts change)) := by
  rw [mapTexts]
  congr 1
  induction items with
  | nil => rfl
  | cons item items ih => simp [mapItems, ih]

theorem wellNamed_mapTexts {expr : Expr} (named : expr.WellNamed) :
    (expr.mapTexts change).WellNamed := by
  induction expr with
  | text value => simp [mapTexts]
  | call function args ih =>
    obtain ⟨hname, harray, hargs⟩ := wellNamed_call.1 named
    rw [mapTexts_call, wellNamed_call]
    exact ⟨hname, harray, List.forall_mem_map.2 fun arg harg => ih arg harg (hargs arg harg)⟩
  | array items ih =>
    have hitems := wellNamed_array.1 named
    rw [mapTexts_array, wellNamed_array]
    exact List.forall_mem_map.2 fun item hitem => ih item hitem (hitems item hitem)

theorem isPlainItem_mapTexts (item : Option String × Expr) :
    isPlainItem (item.1.map change, item.2.mapTexts change) = isPlainItem item := by
  rcases item with ⟨_ | key, _ | _ | _⟩ <;> simp [isPlainItem, mapTexts]

mutual

def literals : Expr → List String
  | .text value => [value]
  | .call _ args => argLiterals args
  | .array items => itemLiterals items
termination_by structural expr => expr

def argLiterals : List Expr → List String
  | [] => []
  | arg :: args => arg.literals ++ argLiterals args
termination_by structural args => args

def itemLiterals : List (Option String × Expr) → List String
  | [] => []
  | (key, value) :: items => key.toList ++ value.literals ++ itemLiterals items
termination_by structural items => items

end

theorem literals_call (function : String) (args : List Expr) :
    (Expr.call function args).literals = args.flatMap literals := by
  rw [literals]
  induction args with
  | nil => rfl
  | cons arg args ih => simp [argLiterals, ih]

theorem literals_array (items : List (Option String × Expr)) :
    (Expr.array items).literals = items.flatMap fun item => item.1.toList ++ item.2.literals := by
  rw [literals]
  induction items with
  | nil => rfl
  | cons item items ih => simp [itemLiterals, ih]

def AllTexts (p : String → Prop) (expr : Expr) : Prop :=
  ∀ value ∈ expr.literals, p value

section AllTexts

variable {p : String → Prop}

@[simp] theorem allTexts_text {value : String} : AllTexts p (.text value) ↔ p value := by
  simp [AllTexts, literals]

@[simp] theorem allTexts_call {function : String} {args : List Expr} :
    AllTexts p (.call function args) ↔ ∀ arg ∈ args, AllTexts p arg := by
  rw [AllTexts, literals_call, List.forall_mem_flatMap]
  rfl

@[simp] theorem allTexts_array {items : List (Option String × Expr)} :
    AllTexts p (.array items) ↔
      ∀ item ∈ items, (∀ key ∈ item.1, p key) ∧ AllTexts p item.2 := by
  rw [AllTexts, literals_array, List.forall_mem_flatMap]
  simp only [List.forall_mem_append, Option.mem_toList]
  rfl

@[simp] theorem allTexts_sequence {items : List Expr} :
    AllTexts p (.sequence items) ↔ ∀ item ∈ items, AllTexts p item := by
  simp [sequence]

@[simp] theorem allTexts_texts {values : List String} :
    AllTexts p (.texts values) ↔ ∀ value ∈ values, p value := by
  simp [texts]

@[simp] theorem allTexts_assoc {entries : List (String × Expr)} :
    AllTexts p (.assoc entries) ↔ ∀ entry ∈ entries, p entry.1 ∧ AllTexts p entry.2 := by
  rw [assoc, allTexts_array, List.forall_mem_map]
  simp

end AllTexts

variable {change} in
theorem mapTexts_eq_self_iff {expr : Expr} :
    expr.mapTexts change = expr ↔ AllTexts (fun value => change value = value) expr := by
  induction expr with
  | text value => simp [mapTexts]
  | call function args ih =>
    have hargs := List.map_inj_left (f := mapTexts change) (g := id) (l := args)
    rw [List.map_id] at hargs
    rw [mapTexts_call, allTexts_call, Expr.call.injEq, hargs]
    simpa using forall₂_congr ih
  | array items ih =>
    have hitems := List.map_inj_left (l := items) (g := id)
      (f := fun item : Option String × Expr => (item.1.map change, item.2.mapTexts change))
    have hitem : ∀ item : Option String × Expr, item ∈ items →
        ((item.1.map change, item.2.mapTexts change) = id item ↔
          (∀ key ∈ item.1, change key = key) ∧ AllTexts (fun value => change value = value) item.2) := by
      rintro ⟨_ | key, value⟩ hmem
      · simpa using ih _ hmem
      · simpa using fun _ => ih _ hmem
    rw [List.map_id] at hitems
    rw [mapTexts_array, allTexts_array, Expr.array.injEq, hitems]
    exact forall₂_congr hitem

end Expr

end ThemeBlocks.Php

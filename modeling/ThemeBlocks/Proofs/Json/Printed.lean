import ThemeBlocks.Proofs.Json.Tree

/-! What the printer writes is read as the very value that was printed, in both layouts, provided that
its numbers are. The two layouts differ in the blanks around items and members alone, so lists and
objects are dealt with once, for any blanks. -/

namespace ThemeBlocks.Json

open Text

def IsGap (gap : List Char) : Prop :=
  ∀ c ∈ gap, c = ' ' ∨ c = '\n'

theorem skipBlanks_gap {gap : List Char} (hgap : IsGap gap) (rest : Source) :
    skipBlanks (symbols gap ++ rest) = skipBlanks rest := by
  induction gap with
  | nil => rfl
  | cons c gap ih =>
    obtain ⟨hc, htail⟩ := List.forall_mem_cons.1 hgap
    rcases hc with rfl | rfl <;> exact ih htail

theorem endsNumber_gap {gap : List Char} (hgap : IsGap gap) {rest : Source} (hrest : EndsNumber rest) :
    EndsNumber (symbols gap ++ rest) := by
  cases gap with
  | nil => exact hrest
  | cons c gap =>
    intro symbol hsymbol
    cases hsymbol
    rcases hgap c List.mem_cons_self with rfl | rfl <;> decide

theorem endsNumber_closing {c : Char} (hc : c ∈ [',', ']', '}']) (rest : Source) :
    EndsNumber (.char c :: rest) := by
  intro symbol hsymbol
  cases hsymbol
  simp only [List.mem_cons, List.not_mem_nil, or_false] at hc
  rcases hc with rfl | rfl | rfl <;> decide

/-- Whether a value can start with the character: it is no blank, it separates no items and it ends no
list. -/
def Opens (c : Char) : Prop :=
  c ∉ [' ', '\t', '\n', '\r', ',', ']']

theorem skipBlanks_opens {c : Char} (hc : Opens c) (rest : Source) :
    skipBlanks (.char c :: rest) = .char c :: rest := by
  unfold skipBlanks
  split
  iterate 4
    · next heq =>
      cases heq
      simp [Opens] at hc
  · rfl

/-- The text is read as the value, with whatever stands behind it left over. -/
structure Readable (text : List Char) (value : Value) : Prop where
  opens : ∃ c tail, text = c :: tail ∧ Opens c
  -- A bracket or a comma takes a step for the list and one for the value in it.
  reads : ∀ fuel rest, EndsNumber rest → 2 * text.length < fuel →
    readTree fuel (symbols text ++ rest) = .ok (value, rest)

section Lists

variable {gap close text : List Char} {value : Value}

theorem nextItem_first (hgap : IsGap gap) (hopens : ∃ c tail, text = c :: tail ∧ Opens c)
    (rest : Source) :
    nextItem true (symbols (gap ++ text) ++ rest) = .ok (some (symbols text ++ rest)) := by
  obtain ⟨c, tail, rfl, hc⟩ := hopens
  rw [nextItem, symbols_append, List.append_assoc, skipBlanks_gap hgap, symbols_cons, List.cons_append,
    skipBlanks_opens hc]
  simp only [if_true]
  split
  · next heq => cases heq
  · next heq =>
    cases heq
    simp [Opens] at hc
  · next heq =>
    cases heq
    simp [Opens] at hc
  · rfl

theorem nextItem_comma (hgap : IsGap gap) (hopens : ∃ c tail, text = c :: tail ∧ Opens c)
    (rest : Source) :
    nextItem false (.char ',' :: (symbols (gap ++ text) ++ rest)) =
      .ok (some (symbols text ++ rest)) := by
  obtain ⟨c, tail, rfl, hc⟩ := hopens
  have hskip : skipBlanks (symbols (gap ++ c :: tail) ++ rest) = .char c :: (symbols tail ++ rest) := by
    rw [symbols_append, List.append_assoc, skipBlanks_gap hgap, symbols_cons, List.cons_append,
      skipBlanks_opens hc]
  have hcomma : skipBlanks (.char ',' :: (symbols (gap ++ c :: tail) ++ rest)) =
      .char ',' :: (symbols (gap ++ c :: tail) ++ rest) := rfl
  simp only [nextItem, hcomma, hskip, Bool.false_eq_true, if_false]
  split
  · next heq => cases heq
  · next heq =>
    cases heq
    simp [Opens] at hc
  · rfl

theorem nextItem_close (hclose : IsGap close) (first : Bool) (rest : Source) :
    nextItem first (symbols close ++ .char ']' :: rest) = .ok none := by
  rw [nextItem, skipBlanks_gap hclose]
  rfl

theorem readTreeItems_next {values : List Value} {first : Bool} {source more rest : Source}
    {fuel : Nat} (htext : Readable text value)
    (hnext : nextItem first source = .ok (some (symbols text ++ more))) (hmore : EndsNumber more)
    (hfuel : 2 * text.length < fuel) (hrest : readTreeItems fuel false more = .ok (values, rest)) :
    readTreeItems (fuel + 1) first source = .ok (value :: values, rest) := by
  rw [readTreeItems, bind_of_ok hnext]
  exact (bind_of_ok (htext.reads _ _ hmore hfuel)).trans (bind_of_ok hrest)

theorem readTreeItems_close (hclose : IsGap close) (first : Bool) (rest : Source) (fuel : Nat) :
    readTreeItems (fuel + 1) first (symbols close ++ .char ']' :: rest) = .ok ([], rest) := by
  rw [readTreeItems, bind_of_ok (nextItem_close hclose first rest), skipBlanks_gap hclose]
  rfl

def furtherItems (gap : List Char) (texts : List (List Char)) : List Char :=
  texts.flatMap fun text => ',' :: (gap ++ text)

theorem endsNumber_furtherItems (hclose : IsGap close) (texts : List (List Char)) (rest : Source) :
    EndsNumber (symbols (furtherItems gap texts) ++ (symbols close ++ .char ']' :: rest)) := by
  cases texts with
  | nil => exact endsNumber_gap hclose (endsNumber_closing (by simp) rest)
  | cons text texts => exact endsNumber_closing (by simp) _

theorem readTreeItems_further (hgap : IsGap gap) (hclose : IsGap close) {texts : List (List Char)}
    {values : List Value} (h : List.Forall₂ Readable texts values) (rest : Source) {fuel : Nat}
    (hfuel : 2 * (furtherItems gap texts).length < fuel) :
    readTreeItems fuel false
        (symbols (furtherItems gap texts) ++ (symbols close ++ .char ']' :: rest)) =
      .ok (values, rest) := by
  induction h generalizing fuel with
  | nil =>
    obtain ⟨fuel, rfl⟩ := Nat.exists_eq_succ_of_ne_zero (Nat.ne_zero_of_lt hfuel)
    exact readTreeItems_close hclose false rest fuel
  | @cons text value texts values htext _ ih =>
    obtain ⟨fuel, rfl⟩ := Nat.exists_eq_succ_of_ne_zero (Nat.ne_zero_of_lt hfuel)
    have hsplit : furtherItems gap (text :: texts) = ',' :: (gap ++ text) ++ furtherItems gap texts := rfl
    rw [hsplit] at hfuel ⊢
    simp only [List.length_append, List.length_cons] at hfuel
    rw [symbols_append, List.append_assoc]
    exact readTreeItems_next htext (nextItem_comma hgap htext.opens _)
      (endsNumber_furtherItems hclose texts rest) (by omega) (ih (by omega))

def listText (gap close : List Char) : List (List Char) → List Char
  | [] => ['[', ']']
  | text :: texts => '[' :: (gap ++ text ++ (furtherItems gap texts ++ (close ++ [']'])))

theorem readable_listText (hgap : IsGap gap) (hclose : IsGap close) {texts : List (List Char)}
    {values : List Value} (h : List.Forall₂ Readable texts values) :
    Readable (listText gap close texts) (.array values) := by
  cases h with
  | nil =>
    refine ⟨⟨'[', _, rfl, by simp [Opens]⟩, fun fuel rest _ hfuel => ?_⟩
    simp only [listText, List.length_cons, List.length_nil] at hfuel
    obtain ⟨fuel, rfl⟩ : ∃ n, fuel = n + 2 := ⟨fuel - 2, by omega⟩
    exact bind_of_ok (readTreeItems_close (List.forall_mem_nil _) true rest fuel)
  | @cons text value texts values htext htexts =>
    refine ⟨⟨'[', _, rfl, by simp [Opens]⟩, fun fuel rest _ hfuel => ?_⟩
    simp only [listText, List.length_append, List.length_cons, List.length_nil] at hfuel
    obtain ⟨fuel, rfl⟩ : ∃ n, fuel = n + 2 := ⟨fuel - 2, by omega⟩
    have hitems : readTreeItems (fuel + 1) true (symbols (gap ++ text) ++
        (symbols (furtherItems gap texts) ++ (symbols close ++ .char ']' :: rest))) =
        .ok (value :: values, rest) :=
      readTreeItems_next htext (nextItem_first hgap htext.opens _)
        (endsNumber_furtherItems hclose texts rest) (by omega)
        (readTreeItems_further hgap hclose htexts rest (by omega))
    rw [readTree]
    simp only [listText, symbols_cons, symbols_append, List.cons_append, List.append_assoc,
      symbols_nil, List.nil_append] at hitems ⊢
    exact bind_of_ok hitems

end Lists

section Objects

variable {gap close colon text : List Char} {key : String} {value : Value}

def memberTail (colon : List Char) (key : String) (text : List Char) : List Char :=
  escape key.toList ++ '"' :: ':' :: (colon ++ text)

def memberText (colon : List Char) (key : String) (text : List Char) : List Char :=
  '"' :: memberTail colon key text

theorem nextKey_first (hgap : IsGap gap) (rest : Source) :
    nextKey true (symbols gap ++ .char '"' :: rest) = .ok (some rest) := by
  rw [nextKey, skipBlanks_gap hgap]
  rfl

theorem nextKey_comma (hgap : IsGap gap) (rest : Source) :
    nextKey false (.char ',' :: (symbols gap ++ .char '"' :: rest)) = .ok (some rest) := by
  have hcomma : skipBlanks (.char ',' :: (symbols gap ++ .char '"' :: rest)) =
      .char ',' :: (symbols gap ++ .char '"' :: rest) := rfl
  simp only [nextKey, hcomma, skipBlanks_gap hgap, Bool.false_eq_true, if_false]
  rfl

theorem nextKey_close (hclose : IsGap close) (first : Bool) (rest : Source) :
    nextKey first (symbols close ++ .char '}' :: rest) = .ok none := by
  rw [nextKey, skipBlanks_gap hclose]
  rfl

theorem scanString_memberTail (more : Source) :
    scanString (symbols (memberTail colon key text) ++ more) =
      .ok (key, .char ':' :: (symbols colon ++ (symbols text ++ more))) := by
  simp only [memberTail, symbols_append, symbols_cons, List.append_assoc, List.cons_append]
  exact scanString_escape _ _

theorem readTreeMembers_close (hclose : IsGap close) (first : Bool) (rest : Source) (fuel : Nat) :
    readTreeMembers (fuel + 1) first (symbols close ++ .char '}' :: rest) = .ok ([], rest) := by
  rw [readTreeMembers, bind_of_ok (nextKey_close hclose first rest), skipBlanks_gap hclose]
  rfl

theorem readTree_gap (hgap : IsGap gap) (fuel : Nat) (source : Source) :
    readTree (fuel + 1) (symbols gap ++ source) = readTree (fuel + 1) source := by
  rw [readTree, readTree, skipBlanks_gap hgap]

theorem readTreeMembers_next {members : List (String × Value)} {first : Bool}
    {source more rest : Source} {fuel : Nat} (hcolon : IsGap colon) (htext : Readable text value)
    (hnext : nextKey first source = .ok (some (symbols (memberTail colon key text) ++ more)))
    (hmore : EndsNumber more) (hfuel : 2 * text.length < fuel)
    (hrest : readTreeMembers fuel false more = .ok (members, rest)) :
    readTreeMembers (fuel + 1) first source = .ok ((key, value) :: members, rest) := by
  obtain ⟨fuel, rfl⟩ := Nat.exists_eq_succ_of_ne_zero (Nat.ne_zero_of_lt hfuel)
  have hvalue : readTree (fuel + 1) (symbols colon ++ (symbols text ++ more)) = .ok (value, more) :=
    (readTree_gap hcolon fuel _).trans (htext.reads _ _ hmore hfuel)
  rw [readTreeMembers, bind_of_ok hnext]
  exact (bind_of_ok (scanString_memberTail more)).trans <| (bind_of_ok rfl).trans <|
    (bind_of_ok hvalue).trans (bind_of_ok hrest)

def furtherMembers (gap colon : List Char) (texts : List (String × List Char)) : List Char :=
  texts.flatMap fun member => ',' :: (gap ++ memberText colon member.1 member.2)

theorem endsNumber_furtherMembers (hclose : IsGap close) (texts : List (String × List Char))
    (rest : Source) :
    EndsNumber (symbols (furtherMembers gap colon texts) ++ (symbols close ++ .char '}' :: rest)) := by
  cases texts with
  | nil => exact endsNumber_gap hclose (endsNumber_closing (by simp) rest)
  | cons text texts => exact endsNumber_closing (by simp) _

def ReadableMember (text : String × List Char) (member : String × Value) : Prop :=
  text.1 = member.1 ∧ Readable text.2 member.2

theorem readTreeMembers_further (hgap : IsGap gap) (hcolon : IsGap colon) (hclose : IsGap close)
    {texts : List (String × List Char)} {members : List (String × Value)}
    (h : List.Forall₂ ReadableMember texts members) (rest : Source) {fuel : Nat}
    (hfuel : 2 * (furtherMembers gap colon texts).length < fuel) :
    readTreeMembers fuel false
        (symbols (furtherMembers gap colon texts) ++ (symbols close ++ .char '}' :: rest)) =
      .ok (members, rest) := by
  induction h generalizing fuel with
  | nil =>
    obtain ⟨fuel, rfl⟩ := Nat.exists_eq_succ_of_ne_zero (Nat.ne_zero_of_lt hfuel)
    exact readTreeMembers_close hclose false rest fuel
  | @cons head member texts members hhead _ ih =>
    obtain ⟨key, text⟩ := head
    obtain ⟨other, value⟩ := member
    obtain ⟨rfl, (htext : Readable text value)⟩ := hhead
    obtain ⟨fuel, rfl⟩ := Nat.exists_eq_succ_of_ne_zero (Nat.ne_zero_of_lt hfuel)
    have hsplit : furtherMembers gap colon ((key, text) :: texts) =
        ',' :: (gap ++ '"' :: memberTail colon key text) ++ furtherMembers gap colon texts := rfl
    rw [hsplit] at hfuel ⊢
    simp only [memberTail, List.length_append, List.length_cons] at hfuel
    simp only [symbols_append, symbols_cons, List.append_assoc, List.cons_append]
    exact readTreeMembers_next hcolon htext (nextKey_comma hgap _)
      (endsNumber_furtherMembers hclose texts rest) (by omega) (ih (by omega))

def objectText (gap colon close : List Char) : List (String × List Char) → List Char
  | [] => ['{', '}']
  | (key, text) :: texts =>
    '{' :: (gap ++ memberText colon key text ++ (furtherMembers gap colon texts ++ (close ++ ['}'])))

theorem readable_objectText (hgap : IsGap gap) (hcolon : IsGap colon) (hclose : IsGap close)
    {texts : List (String × List Char)} {members : List (String × Value)}
    (h : List.Forall₂ ReadableMember texts members) :
    Readable (objectText gap colon close texts) (.object members) := by
  cases h with
  | nil =>
    refine ⟨⟨'{', _, rfl, by simp [Opens]⟩, fun fuel rest _ hfuel => ?_⟩
    simp only [objectText, List.length_cons, List.length_nil] at hfuel
    obtain ⟨fuel, rfl⟩ : ∃ n, fuel = n + 2 := ⟨fuel - 2, by omega⟩
    exact bind_of_ok (readTreeMembers_close (List.forall_mem_nil _) true rest fuel)
  | @cons head member texts members hhead htexts =>
    obtain ⟨key, text⟩ := head
    obtain ⟨other, value⟩ := member
    obtain ⟨rfl, (htext : Readable text value)⟩ := hhead
    refine ⟨⟨'{', _, rfl, by simp [Opens]⟩, fun fuel rest _ hfuel => ?_⟩
    simp only [objectText, memberText, memberTail, List.length_append, List.length_cons,
      List.length_nil] at hfuel
    obtain ⟨fuel, rfl⟩ : ∃ n, fuel = n + 2 := ⟨fuel - 2, by omega⟩
    have hmembers : readTreeMembers (fuel + 1) true
        (symbols gap ++ .char '"' :: (symbols (memberTail colon key text) ++
          (symbols (furtherMembers gap colon texts) ++ (symbols close ++ .char '}' :: rest)))) =
        .ok ((key, value) :: members, rest) :=
      readTreeMembers_next hcolon htext (nextKey_first hgap _)
        (endsNumber_furtherMembers hclose texts rest) (by omega)
        (readTreeMembers_further hgap hcolon hclose htexts rest (by omega))
    rw [readTree]
    simp only [objectText, memberText, symbols_cons, symbols_append, List.cons_append,
      List.append_assoc, symbols_nil, List.nil_append] at hmembers ⊢
    exact bind_of_ok hmembers

end Objects

section Scalars

theorem readable_word {c : Char} (letters : List Char) {value : Value} (hc : Opens c)
    (hreads : ∀ fuel rest, readTree (fuel + 1) (.char c :: rest) =
      scanWord letters rest >>= fun rest => .ok (value, rest)) : Readable (c :: letters) value := by
  refine ⟨⟨c, letters, rfl, hc⟩, fun fuel rest _ hfuel => ?_⟩
  obtain ⟨fuel, rfl⟩ := Nat.exists_eq_succ_of_ne_zero (Nat.ne_zero_of_lt hfuel)
  have hword : scanWord letters (symbols letters ++ rest) = .ok rest := by
    clear hreads hfuel
    induction letters with
    | nil => rfl
    | cons letter letters ih => exact (if_pos rfl).trans ih
  exact (hreads fuel _).trans (bind_of_ok hword)

theorem readable_null : Readable ['n', 'u', 'l', 'l'] .null :=
  readable_word ['u', 'l', 'l'] (by simp [Opens]) fun _ _ => rfl

theorem readable_true : Readable ['t', 'r', 'u', 'e'] (.bool true) :=
  readable_word ['r', 'u', 'e'] (by simp [Opens]) fun _ _ => rfl

theorem readable_false : Readable ['f', 'a', 'l', 's', 'e'] (.bool false) :=
  readable_word ['a', 'l', 's', 'e'] (by simp [Opens]) fun _ _ => rfl

theorem readable_string (text : String) : Readable (quote text).toList (.string text) := by
  rw [toList_quote]
  refine ⟨⟨'"', _, rfl, by simp [Opens]⟩, fun fuel rest _ hfuel => ?_⟩
  obtain ⟨fuel, rfl⟩ := Nat.exists_eq_succ_of_ne_zero (Nat.ne_zero_of_lt hfuel)
  rw [readTree]
  simp only [symbols_append, symbols_cons, symbols_nil, List.cons_append, List.append_assoc,
    List.nil_append]
  exact bind_of_ok (scanString_escape text rest)

def Number.ReadsBack (number : Number) : Prop :=
  scanNumber (.ofText number.text) = .ok (number, [])

theorem Number.readsBack_int {n : Int} (h : IsWord n) : (Number.int n).ReadsBack :=
  scanNumber_int h

theorem readTree_number {c : Char} (hc : Symbol.char c = .char '-' ∨ (digitOf? (.char c)).isSome)
    (hopens : Opens c) (fuel : Nat) (rest : Source) :
    readTree (fuel + 1) (.char c :: rest) =
      scanNumber (.char c :: rest) >>= fun out => .ok (.number out.1, out.2) := by
  rw [readTree, skipBlanks_opens hopens]
  split
  · next heq => cases heq
  iterate 6
    · next heq =>
      cases heq
      exact absurd hc (by decide)
  · next heq =>
    cases heq
    rw [if_pos hc]

theorem readable_number {number : Number} (h : number.ReadsBack) :
    Readable number.text.toList (.number number) := by
  rw [Number.ReadsBack, ofText_eq_symbols] at h
  generalize number.text.toList = text at h ⊢
  cases text with
  | nil => cases h
  | cons c tail =>
    have hhead := head_of_scanNumber h
    have hopens : Opens c := by
      intro hmem
      simp only [List.mem_cons, List.not_mem_nil, or_false] at hmem
      rcases hmem with rfl | rfl | rfl | rfl | rfl | rfl <;> exact absurd hhead (by decide)
    -- The number alone was read to its end, so it is settled what is read where more follows.
    refine ⟨⟨c, tail, rfl, hopens⟩, fun fuel rest hrest hfuel => ?_⟩
    obtain ⟨fuel, rfl⟩ := Nat.exists_eq_succ_of_ne_zero (Nat.ne_zero_of_lt hfuel)
    exact (readTree_number hhead hopens fuel _).trans
      (bind_of_ok (settled_scanNumber _ _ rest h hrest))

end Scalars

namespace Value

def ReadsBack : Value → Prop
  | .number n => n.ReadsBack
  | _ => True

theorem toList_compactItems (item : Value) (items : List Value) :
    (compactItems (item :: items)).toList =
      item.compact.toList ++ furtherItems [] (items.map fun item => item.compact.toList) := by
  induction items generalizing item with
  | nil => simp [compactItems, furtherItems]
  | cons next items ih =>
    rw [compactItems, String.toList_append, String.toList_append, ih next]
    · simp [furtherItems]
    · simp

theorem toList_compact_array (items : List Value) :
    (Value.array items).compact.toList =
      listText [] [] (items.map fun item => item.compact.toList) := by
  cases items with
  | nil => rfl
  | cons item items => simp [compact, toList_compactItems, listText]

theorem toList_compactMembers (member : String × Value) (members : List (String × Value)) :
    (compactMembers (member :: members)).toList =
      memberText [] member.1 member.2.compact.toList ++
        furtherMembers [] [] (members.map fun member => (member.1, member.2.compact.toList)) := by
  induction members generalizing member with
  | nil => simp [compactMembers, furtherMembers, memberText, memberTail, toList_quote]
  | cons next members ih =>
    rw [compactMembers, String.toList_append, ih next]
    · simp [furtherMembers, memberText, memberTail, toList_quote]
    · simp

theorem toList_compact_object (members : List (String × Value)) :
    (Value.object members).compact.toList =
      objectText [] [] [] (members.map fun member => (member.1, member.2.compact.toList)) := by
  cases members with
  | nil => rfl
  | cons member members => simp [compact, toList_compactMembers, objectText]

theorem toList_prettyItems (depth : Nat) (item : Value) (items : List Value) :
    (prettyItems (item :: items) depth).toList =
      (item.pretty depth).toList ++
        furtherItems (newLine depth).toList (items.map fun item => (item.pretty depth).toList) := by
  induction items generalizing item with
  | nil => simp [prettyItems, furtherItems]
  | cons next items ih =>
    rw [prettyItems, String.toList_append, String.toList_append, String.toList_append, ih next]
    · simp [furtherItems]
    · simp

theorem toList_pretty_array (depth : Nat) (items : List Value) :
    ((Value.array items).pretty depth).toList =
      listText (newLine (depth + 1)).toList (newLine depth).toList
        (items.map fun item => (item.pretty (depth + 1)).toList) := by
  cases items with
  | nil => simp [pretty, listText]
  | cons item items => simp [pretty, toList_prettyItems, listText]

theorem toList_prettyMembers (depth : Nat) (member : String × Value)
    (members : List (String × Value)) :
    (prettyMembers (member :: members) depth).toList =
      memberText [' '] member.1 (member.2.pretty depth).toList ++
        furtherMembers (newLine depth).toList [' ']
          (members.map fun member => (member.1, (member.2.pretty depth).toList)) := by
  induction members generalizing member with
  | nil => simp [prettyMembers, furtherMembers, memberText, memberTail, toList_quote]
  | cons next members ih =>
    rw [prettyMembers, String.toList_append, ih next]
    · simp [furtherMembers, memberText, memberTail, toList_quote]
    · simp

theorem toList_pretty_object (depth : Nat) (members : List (String × Value)) :
    ((Value.object members).pretty depth).toList =
      objectText (newLine (depth + 1)).toList [' '] (newLine depth).toList
        (members.map fun member => (member.1, (member.2.pretty (depth + 1)).toList)) := by
  cases members with
  | nil => simp [pretty, objectText]
  | cons member members => simp [pretty, toList_prettyMembers, objectText]

theorem isGap_newLine (depth : Nat) : IsGap (newLine depth).toList := by
  intro c hc
  rw [newLine, String.toList_ofList, List.mem_cons, List.mem_replicate] at hc
  exact hc.symm.imp And.right id

variable {value : Value}

theorem readable_compact (h : Everywhere ReadsBack value) : Readable value.compact.toList value := by
  induction value with
  | null => simp [compact, readable_null]
  | bool b => cases b <;> simp [compact, readable_true, readable_false]
  | number n => exact readable_number h.here
  | string text => exact readable_string text
  | array items ih =>
    have hitems := (everywhere_array_iff.1 h).2
    rw [toList_compact_array]
    refine readable_listText (List.forall_mem_nil _) (List.forall_mem_nil _) ?_
    rw [List.forall₂_map_left_iff, List.forall₂_same]
    exact fun item hitem => ih item hitem (hitems item hitem)
  | object members ih =>
    have hmembers := (everywhere_object_iff.1 h).2
    rw [toList_compact_object]
    refine readable_objectText (List.forall_mem_nil _) (List.forall_mem_nil _) (List.forall_mem_nil _) ?_
    rw [List.forall₂_map_left_iff, List.forall₂_same]
    exact fun member hmember => ⟨rfl, ih member hmember (hmembers member hmember)⟩

theorem readable_pretty (h : Everywhere ReadsBack value) (depth : Nat) :
    Readable (value.pretty depth).toList value := by
  induction value generalizing depth with
  | null => simp [pretty, readable_null]
  | bool b => cases b <;> simp [pretty, readable_true, readable_false]
  | number n => exact readable_number h.here
  | string text => exact readable_string text
  | array items ih =>
    have hitems := (everywhere_array_iff.1 h).2
    rw [toList_pretty_array]
    refine readable_listText (isGap_newLine _) (isGap_newLine _) ?_
    rw [List.forall₂_map_left_iff, List.forall₂_same]
    exact fun item hitem => ih item hitem (hitems item hitem) _
  | object members ih =>
    have hmembers := (everywhere_object_iff.1 h).2
    rw [toList_pretty_object]
    refine readable_objectText (isGap_newLine _) (by simp [IsGap]) (isGap_newLine _) ?_
    rw [List.forall₂_map_left_iff, List.forall₂_same]
    exact fun member hmember => ⟨rfl, ih member hmember (hmembers member hmember) _⟩

end Value

theorem treeOf_of_readable {text : String} {value : Value} (h : Readable text.toList value) :
    treeOf text = .ok value := by
  have hread := h.reads (stepsFor (symbols text.toList)) [] (fun _ hsymbol => by cases hsymbol)
    (by rw [stepsFor, length_symbols]; omega)
  rw [List.append_nil, ← ofText_eq_symbols] at hread
  exact (bind_of_ok hread).trans (bind_of_ok rfl)

/-- A printed value is what its text spells, in either layout. -/
theorem treeOf_render {value : Value} (h : Value.Everywhere Value.ReadsBack value) (isPretty : Bool) :
    treeOf (value.render isPretty) = .ok value := by
  cases isPretty with
  | false => exact treeOf_of_readable (Value.readable_compact h)
  | true => exact treeOf_of_readable (Value.readable_pretty h 0)

end ThemeBlocks.Json

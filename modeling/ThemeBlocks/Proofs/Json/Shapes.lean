import ThemeBlocks.Json.Shape
import ThemeBlocks.Proofs.Json.Printed

/-! Shapes over printed texts. A shape takes a value if it reads every text of the value, in either layout
and whatever stands behind it. Texts of strings, lists and objects end with a mark of their own, so
nothing has to be known of what follows. Each shape has one law: what it takes, provided that the
shapes within it take the parts. -/

namespace ThemeBlocks.Json

open Text

/-- The value without blanks, or laid out at some depth. -/
def IsText (text : List Char) (value : Value) : Prop :=
  text = value.compact.toList ∨ ∃ depth, text = (value.pretty depth).toList

theorem isText_render (value : Value) (isPretty : Bool) :
    IsText (value.render isPretty).toList value := by
  cases isPretty with
  | false => exact .inl rfl
  | true => exact .inr ⟨0, rfl⟩

/-- What is left of a list: its items and the closing bracket. No comma stands in front of the first. -/
inductive ItemsText : Bool → List Char → List Value → Prop
  | close {first : Bool} {gap : List Char} : IsGap gap → ItemsText first (gap ++ [']']) []
  | first {gap text more : List Char} {value : Value} {values : List Value} : IsGap gap →
      IsText text value → ItemsText false more values →
      ItemsText true (gap ++ text ++ more) (value :: values)
  | next {gap text more : List Char} {value : Value} {values : List Value} : IsGap gap →
      IsText text value → ItemsText false more values →
      ItemsText false (',' :: (gap ++ text ++ more)) (value :: values)

/-- What is left of an object: its members and the closing brace. -/
inductive MembersText : Bool → List Char → List (String × Value) → Prop
  | close {first : Bool} {gap : List Char} : IsGap gap → MembersText first (gap ++ ['}']) []
  | first {gap colon text more : List Char} {key : String} {value : Value}
      {members : List (String × Value)} : IsGap gap → IsGap colon → IsText text value →
      MembersText false more members →
      MembersText true (gap ++ memberText colon key text ++ more) ((key, value) :: members)
  | next {gap colon text more : List Char} {key : String} {value : Value}
      {members : List (String × Value)} : IsGap gap → IsGap colon → IsText text value →
      MembersText false more members →
      MembersText false (',' :: (gap ++ memberText colon key text ++ more)) ((key, value) :: members)

theorem ItemsText.length_le {first : Bool} {text : List Char} {values : List Value}
    (h : ItemsText first text values) : values.length ≤ text.length := by
  -- Only a first item might be written without any character; the bracket makes up for it.
  have hlt : values.length < text.length + first.toNat := by
    induction h with
    | close _ => simp
    | first _ _ _ ih => simp at ih ⊢; omega
    | next _ _ _ ih => simp at ih ⊢; omega
  cases first <;> simp at hlt <;> omega

theorem MembersText.length_le {first : Bool} {text : List Char} {members : List (String × Value)}
    (h : MembersText first text members) : members.length ≤ text.length := by
  induction h with
  | close _ => simp
  | first _ _ _ _ ih => simp [memberText]; omega
  | next _ _ _ _ ih => simp; omega

def IsMemberText (text : String × List Char) (member : String × Value) : Prop :=
  text.1 = member.1 ∧ IsText text.2 member.2

section Layouts

variable {gap colon close : List Char}

theorem itemsText_further (hgap : IsGap gap) (hclose : IsGap close) {texts : List (List Char)}
    {values : List Value} (h : List.Forall₂ IsText texts values) :
    ItemsText false (furtherItems gap texts ++ (close ++ [']'])) values := by
  induction h with
  | nil => exact .close hclose
  | @cons text value texts values htext _ ih =>
    have hsplit : furtherItems gap (text :: texts) = ',' :: (gap ++ text) ++ furtherItems gap texts := rfl
    rw [hsplit, List.append_assoc]
    exact .next hgap htext ih

theorem exists_itemsText (hgap : IsGap gap) (hclose : IsGap close) {texts : List (List Char)}
    {values : List Value} (h : List.Forall₂ IsText texts values) :
    ∃ tail, listText gap close texts = '[' :: tail ∧ ItemsText true tail values := by
  cases h with
  | nil => exact ⟨_, rfl, .close (List.forall_mem_nil _)⟩
  | cons htext htexts => exact ⟨_, rfl, .first hgap htext (itemsText_further hgap hclose htexts)⟩

theorem membersText_further (hgap : IsGap gap) (hcolon : IsGap colon) (hclose : IsGap close)
    {texts : List (String × List Char)} {members : List (String × Value)}
    (h : List.Forall₂ IsMemberText texts members) :
    MembersText false (furtherMembers gap colon texts ++ (close ++ ['}'])) members := by
  induction h with
  | nil => exact .close hclose
  | @cons head member texts members hhead _ ih =>
    obtain ⟨key, text⟩ := head
    obtain ⟨other, value⟩ := member
    obtain ⟨rfl, (htext : IsText text value)⟩ := hhead
    have hsplit : furtherMembers gap colon ((key, text) :: texts) =
        ',' :: (gap ++ memberText colon key text) ++ furtherMembers gap colon texts := rfl
    rw [hsplit, List.append_assoc]
    exact .next hgap hcolon htext ih

theorem exists_membersText (hgap : IsGap gap) (hcolon : IsGap colon) (hclose : IsGap close)
    {texts : List (String × List Char)} {members : List (String × Value)}
    (h : List.Forall₂ IsMemberText texts members) :
    ∃ tail, objectText gap colon close texts = '{' :: tail ∧ MembersText true tail members := by
  cases h with
  | nil => exact ⟨_, rfl, .close (List.forall_mem_nil _)⟩
  | @cons head member texts members hhead htexts =>
    obtain ⟨key, text⟩ := head
    obtain ⟨other, value⟩ := member
    obtain ⟨rfl, (htext : IsText text value)⟩ := hhead
    exact ⟨_, rfl, .first hgap hcolon htext (membersText_further hgap hcolon hclose htexts)⟩

end Layouts

variable {text : List Char}

theorem exists_of_isText_string {content : String} (h : IsText text (.string content)) :
    ∃ tail, text = '"' :: tail ∧ ∀ rest, scanString (symbols tail ++ rest) = .ok (content, rest) := by
  have htext : text = (quote content).toList := by
    rcases h with rfl | ⟨depth, rfl⟩ <;> rfl
  refine ⟨escape content.toList ++ ['"'], by rw [htext, toList_quote, List.cons_append], fun rest => ?_⟩
  rw [symbols_append, List.append_assoc]
  exact scanString_escape content rest

theorem exists_of_isText_array {items : List Value} (h : IsText text (.array items)) :
    ∃ tail, text = '[' :: tail ∧ ItemsText true tail items := by
  rcases h with rfl | ⟨depth, rfl⟩
  · rw [Value.toList_compact_array]
    refine exists_itemsText (List.forall_mem_nil _) (List.forall_mem_nil _) ?_
    rw [List.forall₂_map_left_iff, List.forall₂_same]
    exact fun item _ => .inl rfl
  · rw [Value.toList_pretty_array]
    refine exists_itemsText (Value.isGap_newLine _) (Value.isGap_newLine _) ?_
    rw [List.forall₂_map_left_iff, List.forall₂_same]
    exact fun item _ => .inr ⟨_, rfl⟩

theorem exists_of_isText_object {members : List (String × Value)} (h : IsText text (.object members)) :
    ∃ tail, text = '{' :: tail ∧ MembersText true tail members := by
  rcases h with rfl | ⟨depth, rfl⟩
  · rw [Value.toList_compact_object]
    refine exists_membersText (List.forall_mem_nil _) (List.forall_mem_nil _) (List.forall_mem_nil _) ?_
    rw [List.forall₂_map_left_iff, List.forall₂_same]
    exact fun member _ => ⟨rfl, .inl rfl⟩
  · rw [Value.toList_pretty_object]
    refine exists_membersText (Value.isGap_newLine _) (by simp [IsGap]) (Value.isGap_newLine _) ?_
    rw [List.forall₂_map_left_iff, List.forall₂_same]
    exact fun member _ => ⟨rfl, .inr ⟨_, rfl⟩⟩

def IsOpening (c : Char) : Prop :=
  c ∈ ['"', '[', '{']

theorem IsOpening.opens {c : Char} (h : IsOpening c) : Opens c := by
  simp only [IsOpening, List.mem_cons, List.not_mem_nil, or_false] at h
  rcases h with rfl | rfl | rfl <;> simp [Opens]

/-- With room for more than `depth` brackets the shape reads every text of the value, behind blanks, as
the result. -/
structure Takes {α : Type} (shape : Shape α) (depth : Nat) (value : Value) (result : α) : Prop where
  opens : ∀ text, IsText text value → ∃ c tail, text = c :: tail ∧ IsOpening c
  reads : ∀ text, IsText text value → ∀ room, depth < room → ∀ gap, IsGap gap → ∀ rest,
    shape room (symbols gap ++ (symbols text ++ rest)) = .ok (result, rest)

section Takes

variable {α : Type} {shape : Shape α} {depth room : Nat} {value : Value} {result : α}

theorem Takes.opens_text (h : Takes shape depth value result) (htext : IsText text value) :
    ∃ c tail, text = c :: tail ∧ Opens c := by
  obtain ⟨c, tail, heq, hc⟩ := h.opens text htext
  exact ⟨c, tail, heq, hc.opens⟩

theorem takes_of_opening
    (h : ∀ text, IsText text value → ∃ c tail, text = c :: tail ∧ IsOpening c ∧
      ∀ room, depth < room → ∀ source rest, skipBlanks source = .char c :: (symbols tail ++ rest) →
        shape room source = .ok (result, rest)) :
    Takes shape depth value result where
  opens text htext := by
    obtain ⟨c, tail, heq, hc, -⟩ := h text htext
    exact ⟨c, tail, heq, hc⟩
  reads text htext room hroom gap hgap rest := by
    obtain ⟨c, tail, rfl, hc, hreads⟩ := h text htext
    refine hreads room hroom _ rest ?_
    rw [skipBlanks_gap hgap]
    exact skipBlanks_opens hc.opens _

theorem Takes.map {β : Type} (f : α → β) (h : Takes shape depth value result) :
    Takes (fun room source => do
      let (result, rest) ← shape room source
      .ok (f result, rest)) depth value (f result) where
  opens := h.opens
  reads text htext room hroom gap hgap rest :=
    bind_of_ok (h.reads text htext room hroom gap hgap rest)

theorem lt_stepsFor {n : Nat} (h : n ≤ text.length) (rest : Source) :
    n < stepsFor (symbols text ++ rest) := by
  rw [stepsFor, List.length_append, length_symbols]
  omega

theorem enter_of_lt (h : depth + 1 < room) (source : Source) : enter room source = .ok (room - 1) :=
  if_neg (by omega)

theorem takes_text (depth : Nat) (content : String) :
    Takes Shape.text depth (.string content) content := by
  refine takes_of_opening fun text htext => ?_
  obtain ⟨tail, rfl, hscan⟩ := exists_of_isText_string htext
  refine ⟨'"', tail, rfl, by simp [IsOpening], fun room _ source rest hskip => ?_⟩
  rw [Shape.text, hskip]
  exact hscan rest

theorem takes_variant {ofName? : String → Option α} {known : List String} {name : String}
    (depth : Nat) (hname : ofName? name = some result) :
    Takes (Shape.variant ofName? known) depth (.string name) result := by
  refine takes_of_opening fun text htext => ?_
  obtain ⟨tail, rfl, hscan⟩ := exists_of_isText_string htext
  refine ⟨'"', tail, rfl, by simp [IsOpening], fun room _ source rest hskip => ?_⟩
  simp only [Shape.variant, hskip]
  refine (bind_of_ok (hscan rest)).trans ?_
  simp only [hname]

theorem takes_optional (h : Takes shape depth value result) :
    Takes (Shape.optional shape) depth value (some result) := by
  refine takes_of_opening fun text htext => ?_
  obtain ⟨c, tail, rfl, hc⟩ := h.opens text htext
  refine ⟨c, tail, rfl, hc, fun room hroom source rest hskip => ?_⟩
  have hread : shape room (.char c :: (symbols tail ++ rest)) = .ok (result, rest) :=
    h.reads _ htext room hroom [] (List.forall_mem_nil _) rest
  rw [Shape.optional, hskip]
  split
  · next heq =>
    cases heq
    simp [IsOpening] at hc
  · exact bind_of_ok hread

theorem items_close {gap : List Char} (hgap : IsGap gap) (first : Bool) (room fuel : Nat)
    (rest : Source) :
    Shape.items shape room (fuel + 1) first (symbols gap ++ .char ']' :: rest) = .ok ([], rest) := by
  rw [Shape.items, bind_of_ok (nextItem_close hgap first rest), skipBlanks_gap hgap]
  rfl

theorem items_next {results : List α} {fuel : Nat} {first : Bool} {source more rest : Source}
    (h : Takes shape depth value result) (hroom : depth < room) (htext : IsText text value)
    (hnext : nextItem first source = .ok (some (symbols text ++ more)))
    (hmore : Shape.items shape room fuel false more = .ok (results, rest)) :
    Shape.items shape room (fuel + 1) first source = .ok (result :: results, rest) := by
  have hread : shape room (symbols text ++ more) = .ok (result, more) :=
    h.reads text htext room hroom [] (List.forall_mem_nil _) more
  rw [Shape.items, bind_of_ok hnext]
  exact (bind_of_ok hread).trans (bind_of_ok hmore)

theorem items_of_itemsText {first : Bool} {values : List Value} (htext : ItemsText first text values)
    {results : List α} (h : List.Forall₂ (Takes shape depth) values results) (hroom : depth < room)
    {fuel : Nat} (hfuel : values.length < fuel) (rest : Source) :
    Shape.items shape room fuel first (symbols text ++ rest) = .ok (results, rest) := by
  induction htext generalizing results fuel with
  | close hgap =>
    cases h
    obtain ⟨fuel, rfl⟩ := Nat.exists_eq_succ_of_ne_zero (Nat.ne_zero_of_lt hfuel)
    rw [symbols_append, List.append_assoc]
    exact items_close hgap _ room fuel rest
  | first hgap htext _ ih =>
    obtain _ | ⟨hhead, htail⟩ := h
    obtain ⟨fuel, rfl⟩ := Nat.exists_eq_succ_of_ne_zero (Nat.ne_zero_of_lt hfuel)
    rw [symbols_append, List.append_assoc]
    exact items_next hhead hroom htext (nextItem_first hgap (hhead.opens_text htext) _)
      (ih htail (Nat.lt_of_succ_lt_succ hfuel))
  | next hgap htext _ ih =>
    obtain _ | ⟨hhead, htail⟩ := h
    obtain ⟨fuel, rfl⟩ := Nat.exists_eq_succ_of_ne_zero (Nat.ne_zero_of_lt hfuel)
    rw [symbols_cons, symbols_append, List.cons_append, List.append_assoc]
    exact items_next hhead hroom htext (nextItem_comma hgap (hhead.opens_text htext) _)
      (ih htail (Nat.lt_of_succ_lt_succ hfuel))

theorem takes_list {values : List Value} {results : List α}
    (h : List.Forall₂ (Takes shape depth) values results) :
    Takes (Shape.list shape) (depth + 1) (.array values) results := by
  refine takes_of_opening fun text htext => ?_
  obtain ⟨tail, rfl, hitems⟩ := exists_of_isText_array htext
  refine ⟨'[', tail, rfl, by simp [IsOpening], fun room hroom source rest hskip => ?_⟩
  simp only [Shape.list, hskip]
  rw [bind_of_ok (enter_of_lt hroom _),
    items_of_itemsText hitems h (by omega) (lt_stepsFor hitems.length_le rest), Shape.within]

theorem takes_list_map {results : List α} {toJson : α → Value}
    (h : ∀ result ∈ results, Takes shape depth (toJson result) result) :
    Takes (Shape.list shape) (depth + 1) (.array (results.map toJson)) results := by
  refine takes_list ?_
  rw [List.forall₂_map_left_iff, List.forall₂_same]
  exact h

def TakesMember (shape : Shape α) (depth : Nat) (member : String × Value) (entry : String × α) :
    Prop :=
  member.1 = entry.1 ∧ Takes shape depth member.2 entry.2

section Objects

variable {gap colon : List Char} {key : String}

theorem nextKey_memberText_first (hgap : IsGap gap) (rest : Source) :
    nextKey true (symbols (gap ++ memberText colon key text) ++ rest) =
      .ok (some (symbols (memberTail colon key text) ++ rest)) := by
  rw [symbols_append, List.append_assoc]
  exact nextKey_first hgap _

theorem nextKey_memberText_comma (hgap : IsGap gap) (rest : Source) :
    nextKey false (.char ',' :: (symbols (gap ++ memberText colon key text) ++ rest)) =
      .ok (some (symbols (memberTail colon key text) ++ rest)) := by
  rw [symbols_append, List.append_assoc]
  exact nextKey_comma hgap _

theorem entries_close (hgap : IsGap gap) (first : Bool) (room fuel : Nat) (rest : Source) :
    Shape.entries shape room (fuel + 1) first (symbols gap ++ .char '}' :: rest) = .ok ([], rest) := by
  rw [Shape.entries, bind_of_ok (nextKey_close hgap first rest), skipBlanks_gap hgap]
  rfl

theorem entries_next {results : List (String × α)} {fuel : Nat} {first : Bool}
    {source more rest : Source} (h : Takes shape depth value result) (hroom : depth < room)
    (hcolon : IsGap colon) (htext : IsText text value)
    (hnext : nextKey first source = .ok (some (symbols (memberTail colon key text) ++ more)))
    (hmore : Shape.entries shape room fuel false more = .ok (results, rest)) :
    Shape.entries shape room (fuel + 1) first source = .ok ((key, result) :: results, rest) := by
  rw [Shape.entries, bind_of_ok hnext]
  exact (bind_of_ok (scanString_memberTail more)).trans <| (bind_of_ok rfl).trans <|
    (bind_of_ok (h.reads text htext room hroom colon hcolon more)).trans (bind_of_ok hmore)

end Objects

theorem entries_of_membersText {first : Bool} {members : List (String × Value)}
    (htext : MembersText first text members) {results : List (String × α)}
    (h : List.Forall₂ (TakesMember shape depth) members results) (hroom : depth < room) {fuel : Nat}
    (hfuel : members.length < fuel) (rest : Source) :
    Shape.entries shape room fuel first (symbols text ++ rest) = .ok (results, rest) := by
  induction htext generalizing results fuel with
  | close hgap =>
    cases h
    obtain ⟨fuel, rfl⟩ := Nat.exists_eq_succ_of_ne_zero (Nat.ne_zero_of_lt hfuel)
    rw [symbols_append, List.append_assoc]
    exact entries_close hgap _ room fuel rest
  | first hgap hcolon htext _ ih =>
    obtain _ | @⟨_, ⟨other, result⟩, _, _, ⟨rfl, hhead⟩, htail⟩ := h
    obtain ⟨fuel, rfl⟩ := Nat.exists_eq_succ_of_ne_zero (Nat.ne_zero_of_lt hfuel)
    rw [symbols_append, List.append_assoc]
    exact entries_next hhead hroom hcolon htext (nextKey_memberText_first hgap _)
      (ih htail (Nat.lt_of_succ_lt_succ hfuel))
  | next hgap hcolon htext _ ih =>
    obtain _ | @⟨_, ⟨other, result⟩, _, _, ⟨rfl, hhead⟩, htail⟩ := h
    obtain ⟨fuel, rfl⟩ := Nat.exists_eq_succ_of_ne_zero (Nat.ne_zero_of_lt hfuel)
    rw [symbols_cons, symbols_append, List.cons_append, List.append_assoc]
    exact entries_next hhead hroom hcolon htext (nextKey_memberText_comma hgap _)
      (ih htail (Nat.lt_of_succ_lt_succ hfuel))

theorem takes_map {members : List (String × Value)} {results : List (String × α)}
    (h : List.Forall₂ (TakesMember shape depth) members results) :
    Takes (Shape.map shape) (depth + 1) (.object members) results := by
  refine takes_of_opening fun text htext => ?_
  obtain ⟨tail, rfl, hmembers⟩ := exists_of_isText_object htext
  refine ⟨'{', tail, rfl, by simp [IsOpening], fun room hroom source rest hskip => ?_⟩
  simp only [Shape.map, hskip]
  rw [bind_of_ok (enter_of_lt hroom _),
    entries_of_membersText hmembers h (by omega) (lt_stepsFor hmembers.length_le rest), Shape.within]

section Records

variable {σ : Type} {fields : List (Shape.Field σ)} {state next last : σ}

/-- The members, one after the other, lead a record from one state to another: each is of a field that is
not set yet. -/
inductive Fills (fields : List (Shape.Field σ)) (depth : Nat) : σ → List (String × Value) → σ → Prop
  | nil (state : σ) : Fills fields depth state [] state
  | cons {state next last : σ} {key : String} {value : Value} {members : List (String × Value)}
      {field : Shape.Field σ} : fields.find? (·.name = key) = some field →
      field.isSet state = false → Takes (field.read state) depth value next →
      Fills fields depth next members last → Fills fields depth state ((key, value) :: members) last

theorem Fills.append {front back : List (String × Value)} (hfront : Fills fields depth state front next)
    (hback : Fills fields depth next back last) : Fills fields depth state (front ++ back) last := by
  induction hfront with
  | nil _ => exact hback
  | cons hfind hunset htakes _ ih => exact .cons hfind hunset htakes (ih hback)

theorem fieldsByName_close {gap : List Char} (hgap : IsGap gap) (first : Bool) (fuel : Nat) (state : σ)
    (rest : Source) :
    Shape.fieldsByName fields room (fuel + 1) first state (symbols gap ++ .char '}' :: rest) =
      .ok (state, .char '}' :: rest) := by
  rw [Shape.fieldsByName, bind_of_ok (nextKey_close hgap first rest), skipBlanks_gap hgap]
  rfl

theorem fieldsByName_next {field : Shape.Field σ} {key : String} {colon : List Char} {fuel : Nat}
    {first : Bool} {source more : Source} (hfind : fields.find? (·.name = key) = some field)
    (hunset : field.isSet state = false) (h : Takes (field.read state) depth value next)
    (hroom : depth < room) (hcolon : IsGap colon) (htext : IsText text value)
    (hnext : nextKey first source = .ok (some (symbols (memberTail colon key text) ++ more))) :
    Shape.fieldsByName fields room (fuel + 1) first state source =
      Shape.fieldsByName fields room fuel false next more := by
  rw [Shape.fieldsByName, bind_of_ok hnext]
  refine (bind_of_ok (scanString_memberTail more)).trans ?_
  simp only [hfind, hunset, Bool.false_eq_true, if_false]
  exact (bind_of_ok rfl).trans (bind_of_ok (h.reads text htext room hroom colon hcolon more))

theorem fieldsByName_of_membersText {first : Bool} {members : List (String × Value)}
    (htext : MembersText first text members) (h : Fills fields depth state members last)
    (hroom : depth < room) {fuel : Nat} (hfuel : members.length < fuel) (rest : Source) :
    Shape.fieldsByName fields room fuel first state (symbols text ++ rest) =
      .ok (last, .char '}' :: rest) := by
  induction htext generalizing state fuel with
  | close hgap =>
    cases h
    obtain ⟨fuel, rfl⟩ := Nat.exists_eq_succ_of_ne_zero (Nat.ne_zero_of_lt hfuel)
    rw [symbols_append, List.append_assoc]
    exact fieldsByName_close hgap _ fuel _ rest
  | first hgap hcolon htext _ ih =>
    obtain _ | ⟨hfind, hunset, hhead, htail⟩ := h
    obtain ⟨fuel, rfl⟩ := Nat.exists_eq_succ_of_ne_zero (Nat.ne_zero_of_lt hfuel)
    rw [symbols_append, List.append_assoc, fieldsByName_next hfind hunset hhead hroom hcolon htext
      (nextKey_memberText_first hgap _)]
    exact ih htail (Nat.lt_of_succ_lt_succ hfuel)
  | next hgap hcolon htext _ ih =>
    obtain _ | ⟨hfind, hunset, hhead, htail⟩ := h
    obtain ⟨fuel, rfl⟩ := Nat.exists_eq_succ_of_ne_zero (Nat.ne_zero_of_lt hfuel)
    rw [symbols_cons, symbols_append, List.cons_append, List.append_assoc,
      fieldsByName_next hfind hunset hhead hroom hcolon htext (nextKey_memberText_comma hgap _)]
    exact ih htail (Nat.lt_of_succ_lt_succ hfuel)

/-- A record takes an object whose members lead it from its empty state to one that is complete. -/
theorem takes_record {name : String} {empty : σ} {finish : σ → Except Misfit α}
    {members : List (String × Value)} (h : Fills fields depth empty members last)
    (hfinish : finish last = .ok result) :
    Takes (Shape.record name fields empty finish) (depth + 1) (.object members) result := by
  refine takes_of_opening fun text htext => ?_
  obtain ⟨tail, rfl, hmembers⟩ := exists_of_isText_object htext
  refine ⟨'{', tail, rfl, by simp [IsOpening], fun room hroom source rest hskip => ?_⟩
  simp only [Shape.record, hskip]
  have hread := fieldsByName_of_membersText hmembers h (show depth < room - 1 by omega)
    (lt_stepsFor hmembers.length_le rest) rest
  rw [bind_of_ok (enter_of_lt hroom _), bind_of_ok hread]
  simp only [hfinish]
  rfl

end Records

end Takes

theorem readAs_of_takes {α : Type} {shape : Shape α} {depth : Nat} {value : Value} {result : α}
    (h : Takes shape depth value result) (hdepth : depth < bracketLimit) {text : String}
    (htext : IsText text.toList value) : readAs shape (.ofText text) = .ok result := by
  have hread := h.reads _ htext bracketLimit hdepth [] (List.forall_mem_nil _) []
  rw [List.append_nil] at hread
  exact (bind_of_ok hread).trans (bind_of_ok rfl)

end ThemeBlocks.Json

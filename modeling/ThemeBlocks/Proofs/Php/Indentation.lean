import ThemeBlocks.Proofs.Php.Reader
import ThemeBlocks.Proofs.Text.Shift

/-! Indented PHP. Shifting the text of an expression prints the expression deeper, with every literal
shifted as a text of its own: the layout takes no harm, and the texts change where they have lines. -/

namespace ThemeBlocks.Php

open Text

theorem escapeLiteral_cons (c : Char) (text : List Char) :
    escapeLiteral (c :: text) = escapeChar c ++ escapeLiteral text := by
  simp [escapeLiteral]

theorem escapeLiteral_append (front back : List Char) :
    escapeLiteral (front ++ back) = escapeLiteral front ++ escapeLiteral back := by
  simp [escapeLiteral]

theorem escapeLiteral_margin (depth : Nat) : escapeLiteral (margin depth) = margin depth := by
  simp [escapeLiteral, margin, List.flatMap_replicate, escapeChar]

theorem exists_of_escapeLiteral_eq_feed {text more : List Char}
    (h : escapeLiteral text = '\n' :: more) : ∃ rest, text = '\n' :: rest := by
  cases text with
  | nil => simp [escapeLiteral] at h
  | cons c text =>
    rw [escapeLiteral_cons, escapeChar] at h
    split at h
    · simp at h
    · obtain ⟨rfl, -⟩ : c = '\n' ∧ _ := by simpa using h
      exact ⟨text, rfl⟩

theorem startsBlank_escapeLiteral (text : List Char) :
    startsBlank (escapeLiteral text) = startsBlank text := by
  fun_cases startsBlank text with
  | case1 => rfl
  | case2 => rfl
  | case3 _ hfeed hreturn =>
    cases text with
    | nil => rfl
    | cons c text =>
      have hc : c ≠ '\n' := by
        rintro rfl
        exact hfeed text rfl
      rw [escapeLiteral_cons, escapeChar]
      split
      · rfl
      · refine startsBlank_cons hc fun more hr hmore => ?_
        obtain ⟨rest, rfl⟩ := exists_of_escapeLiteral_eq_feed hmore
        exact hreturn rest (by rw [hr])

theorem escapeLiteral_atLineStart (depth : Nat) (text shifted : List Char) :
    escapeLiteral (atLineStart depth text shifted) =
      atLineStart depth text (escapeLiteral shifted) := by
  unfold atLineStart
  split
  · rfl
  · rw [escapeLiteral_append, escapeLiteral_margin]

theorem shift_escapeLiteral (depth : Nat) (text : List Char) :
    shift depth (escapeLiteral text) = escapeLiteral (shift depth text) := by
  have hbreak : ∀ rest, shift depth (escapeLiteral rest) = escapeLiteral (shift depth rest) →
      shift depth ('\n' :: escapeLiteral rest) =
        escapeLiteral ('\n' :: atLineStart depth rest (shift depth rest)) := by
    intro rest ih
    rw [escapeLiteral_cons, escapeLiteral_atLineStart, ← ih, shift, atLineStart, atLineStart,
      startsBlank_escapeLiteral]
    rfl
  fun_induction shift depth text with
  | case1 => rfl
  | case2 rest ih => exact hbreak rest ih
  | case3 rest ih => exact hbreak rest ih
  | case4 c rest hc hcr ih =>
    rw [escapeLiteral_cons, escapeLiteral_cons, ← ih, escapeChar]
    split
    -- An escaped character is one step of the text and two of its literal.
    · next hescape =>
      have hreturn : c ≠ '\r' := by
        rintro rfl
        simp at hescape
      have hlast := shift_append_cons depth ['\\'] hc hreturn (escapeLiteral rest)
      simpa [shift] using hlast
    · refine shift.eq_4 depth c _ hc fun more hr hmore => ?_
      obtain ⟨rest', rfl⟩ := exists_of_escapeLiteral_eq_feed hmore
      exact hcr rest' hr rfl

namespace Expr

theorem firm_chars (expr : Expr) (depth : Nat) : Firm (expr.chars depth) := by
  cases expr with
  | text value =>
    rw [chars_text]
    exact firm_concat _ (by decide) (by decide)
  | call function args =>
    rw [chars_call]
    exact firm_concat _ (by decide) (by decide)
  | array items =>
    by_cases plain : items.all isPlainItem
    · rw [chars_row plain]
      exact firm_concat _ (by decide) (by decide)
    · rw [chars_lines plain]
      exact firm_concat _ (by decide) (by decide)

theorem firm_keyChars (key : Option String) : Firm (keyChars key) := by
  cases key with
  | none => exact fun _ _ => rfl
  | some key =>
    have h : keyChars (some key) = (quote key).toList ++ [' ', '=', '>'] ++ [' '] := by
      simp [keyChars, keyText]
    rw [h]
    exact firm_concat _ (by decide) (by decide)

variable (extra : Nat)

theorem shift_quote (value : String) :
    shift extra (quote value).toList = (quote (shiftText extra value)).toList := by
  have hopen : shift extra ('\'' :: escapeLiteral value.toList) =
      '\'' :: shift extra (escapeLiteral value.toList) :=
    shift_append_cons extra [] (by decide) (by decide) _
  rw [quote, quote, String.toList_ofList, String.toList_ofList,
    shift_append_cons extra _ (by decide) (by decide), hopen, shift_escapeLiteral, shiftText,
    String.toList_ofList]
  rfl

theorem shift_keyChars (key : Option String) :
    shift extra (keyChars key) = keyChars (key.map (shiftText extra)) := by
  cases key with
  | none => rfl
  | some key =>
    have hfirm : Firm (quote key).toList := by
      rw [quote, String.toList_ofList]
      exact firm_concat _ (by decide) (by decide)
    have harrow : shift extra " => ".toList = " => ".toList := by simp [shift]
    simp only [keyChars, keyText, String.toList_append, Option.map_some]
    rw [hfirm, shift_quote, harrow]

theorem shift_commaChars {α : Type} {text : α → List Char} (xs : List α)
    (h : ∀ x ∈ xs, Firm (text x)) :
    shift extra (commaChars (xs.map text)) = commaChars (xs.map fun x => shift extra (text x)) := by
  induction xs with
  | nil => rfl
  | cons x xs ih =>
    obtain ⟨hx, hxs⟩ := List.forall_mem_cons.1 h
    cases xs with
    | nil => simp [commaChars]
    | cons y xs =>
      have hcomma : Firm [',', ' '] := firm_concat [','] (by decide) (by decide)
      have hfix : shift extra [',', ' '] = [',', ' '] := by simp [shift]
      have hcons : ∀ pieces : List (List Char), ∀ front next,
          commaChars (front :: next :: pieces) = front ++ ([',', ' '] ++ commaChars (next :: pieces)) := by
        simp [commaChars]
      have hrest := ih hxs
      simp only [List.map_cons] at hrest ⊢
      rw [hcons, hx, hcomma, hfix, hrest, hcons]

def shiftItem (item : Option String × Expr) : Option String × Expr :=
  (item.1.map (shiftText extra), item.2.mapTexts (shiftText extra))

theorem shift_lineChars {item : Option String × Expr} {depth : Nat} {back : List Char}
    (h : shift extra (item.2.chars depth) = (shiftItem extra item).2.chars (depth + extra))
    (hback : startsBlank back = false) :
    margin extra ++ shift extra (lineChars depth item ++ back) =
      lineChars (depth + extra) (shiftItem extra item) ++ (margin extra ++ shift extra back) := by
  have hend : shift extra ([',', '\n'] ++ back) = [',', '\n'] ++ (margin extra ++ shift extra back) := by
    have hfeed := shift_feed extra hback
    have hcomma := shift_append_cons extra [] (by decide) (by decide) (c := ',') ('\n' :: back)
    rw [hfeed] at hcomma
    exact hcomma
  have hmargin : margin extra ++ margin depth = margin (depth + extra) := by
    rw [margin_append, Nat.add_comm]
  simp only [lineChars, List.append_assoc]
  rw [firm_margin, firm_keyChars, firm_chars, shift_margin, shift_keyChars, h, hend,
    ← List.append_assoc, hmargin]
  rfl

theorem shift_lines {items : List (Option String × Expr)} {depth : Nat} {back : List Char}
    (h : ∀ item ∈ items,
      shift extra (item.2.chars (depth + 1)) = (shiftItem extra item).2.chars (depth + 1 + extra))
    (hback : startsBlank back = false) :
    margin extra ++ shift extra (items.flatMap (lineChars (depth + 1)) ++ back) =
      (items.map (shiftItem extra)).flatMap (lineChars (depth + 1 + extra)) ++
        (margin extra ++ shift extra back) := by
  induction items with
  | nil => rfl
  | cons item items ih =>
    obtain ⟨hitem, hitems⟩ := List.forall_mem_cons.1 h
    have hnext : startsBlank (items.flatMap (lineChars (depth + 1)) ++ back) = false := by
      cases items with
      | nil => exact hback
      | cons next items => rfl
    rw [List.flatMap_cons, List.append_assoc, shift_lineChars extra hitem hnext, ih hitems]
    simp

theorem shift_bracket {name : List Char} (h : '\n' ∉ name) (inner : List Char) :
    shift extra (name ++ '(' :: inner ++ [')']) = name ++ '(' :: shift extra inner ++ [')'] := by
  rw [shift_append_cons extra _ (by decide) (by decide),
    shift_append_cons extra name (by decide) (by decide), shift_eq_self extra h]
  rfl

theorem shift_chars {expr : Expr} (named : expr.WellNamed) (depth : Nat) :
    shift extra (expr.chars depth) = (expr.mapTexts (shiftText extra)).chars (depth + extra) := by
  induction expr generalizing depth with
  | text value => exact shift_quote extra value
  | call function args ih =>
    obtain ⟨hname, -, hargs⟩ := wellNamed_call.1 named
    have hlist := shift_commaChars extra args fun arg _ => firm_chars arg depth
    rw [List.map_congr_left fun arg harg => ih arg harg (hargs arg harg) depth] at hlist
    rw [mapTexts_call, chars_call, chars_call, shift_bracket extra (not_mem_of_isName hname rfl),
      hlist, List.map_map]
    rfl
  | array items ih =>
    have hitems := wellNamed_array.1 named
    have hall : (items.map (shiftItem extra)).all isPlainItem = items.all isPlainItem := by
      simp [List.all_map, Function.comp_def, shiftItem, isPlainItem_mapTexts]
    rw [mapTexts_array]
    change _ = (Expr.array (items.map (shiftItem extra))).chars _
    by_cases plain : items.all isPlainItem
    · have hlist := shift_commaChars extra items fun item _ => firm_chars item.2 depth
      rw [List.map_congr_left fun item hitem => ih item hitem (hitems item hitem) depth] at hlist
      rw [chars_row plain, chars_row (hall.trans plain), shift_bracket extra (by decide), hlist,
        List.map_map]
      rfl
    · have hmargin : startsBlank (margin depth) = false := by
        cases depth <;> rfl
      have hfirst : startsBlank (items.flatMap (lineChars (depth + 1)) ++ margin depth) = false := by
        cases items with
        | nil => exact hmargin
        | cons item items => rfl
      have hlines := shift_lines extra (fun item hitem =>
        ih item hitem (hitems item hitem) (depth + 1)) hmargin
      rw [chars_lines plain, chars_lines (by rwa [hall]), shift_bracket extra (by decide),
        shift_feed extra hfirst, hlines, shift_margin, margin_append, Nat.add_comm extra,
        Nat.add_right_comm]

theorem startsBlank_chars {expr : Expr} (named : expr.WellNamed) (depth : Nat) (back : List Char) :
    startsBlank (expr.chars depth ++ back) = false := by
  cases expr with
  | text value =>
    rw [chars_text]
    rfl
  | call function args =>
    obtain ⟨c, rest, hname, hc, -⟩ := exists_cons_of_isName (wellNamed_call.1 named).1
    have hne : ∀ d : Char, isNameStart d = false → c ≠ d := by
      rintro d hd rfl
      simp [hd] at hc
    rw [chars_call, hname]
    exact startsBlank_cons (hne '\n' rfl) fun _ h => absurd h (hne '\r' rfl)
  | array items =>
    by_cases plain : items.all isPlainItem
    · rw [chars_row plain]
      rfl
    · rw [chars_lines plain]
      rfl

end Expr

theorem toList_indent_render {expr : Expr} (named : expr.WellNamed) (depth : Nat) :
    (indent (Stmt.eval expr).render depth).toList =
      margin depth ++ (expr.mapTexts (shiftText depth)).chars depth ++ [';'] := by
  have htext : (Stmt.eval expr).render.toList = (expr.chars 0 ++ [';']) ++ ['\n'] := by
    simp [Stmt.render, Expr.chars]
  have hshift := Expr.shift_chars depth named 0
  rw [toList_indent depth htext (c := ';') (by simp) (by decide) (by decide), atLineStart,
    Expr.startsBlank_chars named, Expr.firm_chars, hshift, Nat.zero_add]
  simp [shift]

theorem spells_indent_render {expr : Expr} (named : expr.WellNamed) (depth : Nat) :
    Spells (indent (Stmt.eval expr).render depth).toList
      (Stmt.eval (expr.mapTexts (shiftText depth))).tokens := by
  have hexpr := Expr.spells_chars (Expr.wellNamed_mapTexts (shiftText depth) named) depth
  have hend : Spells [';'] [.mark .semicolon] := rfl
  rw [toList_indent_render named]
  exact ((spells_margin depth).append hexpr).append hend

end ThemeBlocks.Php

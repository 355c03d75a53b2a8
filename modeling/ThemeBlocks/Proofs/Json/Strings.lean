import ThemeBlocks.Json.Printer
import ThemeBlocks.Json.Scan

/-! Strings of JSON, printed and read. What is escaped is read back character by character, and the
closing quote ends the string whatever stands behind it. -/

namespace ThemeBlocks.Json

open Text

def symbols (text : List Char) : Source :=
  text.map .char

@[simp] theorem symbols_nil : symbols [] = [] :=
  rfl

@[simp] theorem symbols_cons (c : Char) (text : List Char) :
    symbols (c :: text) = .char c :: symbols text :=
  rfl

@[simp] theorem symbols_append (front back : List Char) :
    symbols (front ++ back) = symbols front ++ symbols back :=
  List.map_append

@[simp] theorem length_symbols (text : List Char) : (symbols text).length = text.length :=
  List.length_map _

theorem ofText_eq_symbols (text : String) : Source.ofText text = symbols text.toList :=
  rfl

theorem hexValue?_lowerHex {n : Nat} (h : n < 16) : hexValue? (lowerHex n) = some n :=
  (by decide : ∀ n : Fin 16, hexValue? (lowerHex n) = some n.val) ⟨n, h⟩

theorem scanUnicode_control {c : Char} (h : c < ' ') (rest : Source) :
    scanUnicode (.char '0' :: .char '0' :: .char (lowerHex (c.toNat / 16)) ::
      .char (lowerHex (c.toNat % 16)) :: rest) = .ok (c, rest) := by
  have hc : c.toNat < 32 := h
  have hzero : hexValue? '0' = some 0 := by rfl
  have hhigh := hexValue?_lowerHex (show c.toNat / 16 < 16 by omega)
  have hlow := hexValue?_lowerHex (show c.toNat % 16 < 16 by omega)
  have hnumber : ((0 * 16 + 0) * 16 + c.toNat / 16) * 16 + c.toNat % 16 = c.toNat := by omega
  have hhex : scanHex (.char '0' :: .char '0' :: .char (lowerHex (c.toNat / 16)) ::
      .char (lowerHex (c.toNat % 16)) :: rest) = .ok (c.toNat, rest) := by
    simp only [scanHex, symbolHex?, hzero, hhigh, hlow, hnumber]
  have hsurrogate : isLowSurrogate c.toNat = false ∧ isHighSurrogate c.toNat = false := by
    simp only [isLowSurrogate, isHighSurrogate, Bool.and_eq_false_iff, decide_eq_false_iff_not]
    omega
  rw [scanUnicode, hhex]
  simp only [bind, Except.bind, hsurrogate, Bool.false_eq_true, if_false, Char.ofNat_toNat]

theorem scanChars_escapeChar (fuel : Nat) (acc : List Char) (c : Char) (rest : Source) :
    scanChars (fuel + 1) true acc (symbols (escapeChar c) ++ rest) =
      scanChars fuel true (c :: acc) rest := by
  unfold escapeChar
  split
  iterate 7 · rfl
  · next c hquote hslash _ _ _ _ _ =>
    split
    · next hcontrol =>
      have hunicode := scanUnicode_control hcontrol rest
      simp only [symbols_cons, symbols_nil, List.cons_append, List.nil_append, scanChars,
        scanEscape, hunicode, bind, Except.bind]
    · next hplain =>
      simp only [symbols_cons, symbols_nil, List.cons_append, List.nil_append]
      rw [scanChars, if_neg hplain]
      · exact hquote
      · exact hslash

theorem length_escapeChar_pos (c : Char) : 0 < (escapeChar c).length := by
  unfold escapeChar
  split <;> try exact Nat.succ_pos _
  split <;> exact Nat.succ_pos _

theorem scanChars_escape (text acc : List Char) (rest : Source) {fuel : Nat}
    (hfuel : (escape text).length < fuel) :
    scanChars fuel true acc (symbols (escape text) ++ .char '"' :: rest) =
      .ok (.ofList (acc.reverse ++ text), rest) := by
  induction text generalizing fuel acc with
  | nil =>
    obtain ⟨fuel, rfl⟩ := Nat.exists_eq_succ_of_ne_zero (Nat.ne_zero_of_lt hfuel)
    simp [escape, scanChars]
  | cons c text ih =>
    obtain ⟨fuel, rfl⟩ := Nat.exists_eq_succ_of_ne_zero (Nat.ne_zero_of_lt hfuel)
    have hsplit : escape (c :: text) = escapeChar c ++ escape text := rfl
    have hlength := length_escapeChar_pos c
    rw [hsplit, List.length_append] at hfuel
    rw [hsplit, symbols_append, List.append_assoc, scanChars_escapeChar, ih (c :: acc) (by omega)]
    simp

theorem scanString_escape (text : String) (rest : Source) :
    scanString (symbols (escape text.toList) ++ .char '"' :: rest) = .ok (text, rest) := by
  have hfuel : (escape text.toList).length <
      (symbols (escape text.toList) ++ .char '"' :: rest).length + 1 := by
    simp only [List.length_append, length_symbols]
    omega
  rw [scanString, scanChars_escape _ _ _ hfuel, List.reverse_nil, List.nil_append,
    String.ofList_toList]

theorem toList_quote (text : String) : (quote text).toList = '"' :: escape text.toList ++ ['"'] := by
  rw [quote, String.toList_ofList]

end ThemeBlocks.Json

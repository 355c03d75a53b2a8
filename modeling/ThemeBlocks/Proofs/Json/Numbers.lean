import Mathlib.Tactic.IntervalCases
import Mathlib.Tactic.Positivity
import ThemeBlocks.Misfit
import ThemeBlocks.Proofs.Json.Strings

/-! Numbers of JSON, printed and read. A number that is read from a whole text is read likewise where
something follows that no number goes on with. What comes out as an integer fits a word of 64 bits, and
every such integer is read back as it was printed. -/

namespace ThemeBlocks.Json

open Text

/-- No number goes on with this. -/
def EndsNumber (rest : Source) : Prop :=
  ∀ symbol ∈ rest.head?, digitOf? symbol = none ∧ symbol ≠ .char '.' ∧ isExponentMark symbol = false

section Ends

variable {rest : Source} (hrest : EndsNumber rest)

include hrest

theorem skipDigits_of_ends : skipDigits rest = rest := by
  cases rest with
  | nil => rfl
  | cons symbol rest => simp [skipDigits, (hrest symbol rfl).1]

theorem exponentDigits_of_ends (negative up : Bool) (significand acc : Nat) (start : Int) :
    exponentDigits negative significand start up acc rest =
      floatOf negative significand (if up then start + acc else start - acc) rest := by
  cases rest with
  | nil => rfl
  | cons symbol rest => rw [exponentDigits, (hrest symbol rfl).1]

theorem afterFraction_of_ends (negative : Bool) (significand : Nat) (exponent : Int) :
    afterFraction negative significand exponent rest =
      floatOf negative significand exponent rest := by
  cases rest with
  | nil => rfl
  | cons symbol rest => simp [afterFraction, (hrest symbol rfl).2.2]

theorem fractionDigits_of_ends (negative : Bool) (significand : Nat) (before : Int) {taken : Nat}
    (htaken : taken ≠ 0) :
    fractionDigits negative significand before taken rest =
      floatOf negative significand (before - taken) rest := by
  rw [← afterFraction_of_ends hrest]
  cases rest with
  | nil => simp [fractionDigits, htaken]
  | cons symbol rest => simp [fractionDigits, (hrest symbol rfl).1, htaken]

theorem longInteger_of_ends (negative : Bool) (significand dropped : Nat) :
    longInteger negative significand dropped rest = floatOf negative significand dropped rest := by
  cases rest with
  | nil => rfl
  | cons symbol rest =>
    obtain ⟨hdigit, hpoint, hmark⟩ := hrest symbol rfl
    simp [longInteger, hdigit, hpoint, hmark]

theorem afterInteger_of_ends (negative : Bool) (significand : Nat) :
    afterInteger negative significand rest = .ok (integerOf negative significand, rest) := by
  cases rest with
  | nil => rfl
  | cons symbol rest =>
    obtain ⟨-, hpoint, hmark⟩ := hrest symbol rfl
    simp [afterInteger, hmark]

theorem integerDigits_of_ends (negative : Bool) (significand : Nat) :
    integerDigits negative significand rest = .ok (integerOf negative significand, rest) := by
  rw [← afterInteger_of_ends hrest]
  cases rest with
  | nil => rfl
  | cons symbol rest => rw [integerDigits, (hrest symbol rfl).1]

end Ends

/-- What takes up a whole text is read likewise where the text goes on. -/
def Settled (scan : Source → Except Failure (Number × Source)) : Prop :=
  ∀ source number rest, scan source = .ok (number, []) → EndsNumber rest →
    scan (source ++ rest) = .ok (number, rest)

theorem settled_floatOf (negative : Bool) (significand : Nat) (exponent : Int) :
    Settled (floatOf negative significand exponent) := by
  intro source number rest h _
  unfold floatOf at h ⊢
  split at h
  · cases h
  · cases h
    rfl

theorem skipDigits_append (source : Source) {rest : Source} (hrest : EndsNumber rest) :
    skipDigits (source ++ rest) = skipDigits source ++ rest := by
  fun_induction skipDigits source with
  | case1 => exact skipDigits_of_ends hrest
  | case2 symbol source hdigit ih => simp [skipDigits, hdigit, ih]
  | case3 symbol source hdigit => simp [skipDigits, hdigit]

theorem settled_hugeExponent (negative : Bool) (significand : Nat) (up : Bool) :
    Settled (hugeExponent negative significand up) := by
  intro source number rest h hrest
  unfold hugeExponent at h ⊢
  split at h
  · cases h
  · next hsmall =>
    obtain ⟨rfl, hskip⟩ := Prod.mk.inj (Except.ok.inj h)
    rw [if_neg hsmall, skipDigits_append source hrest, hskip]
    rfl

theorem settled_exponentDigits (negative : Bool) (significand : Nat) (start : Int) (up : Bool)
    (acc : Nat) : Settled (exponentDigits negative significand start up acc) := by
  intro source number rest h hrest
  fun_induction exponentDigits negative significand start up acc source with
  | case1 acc =>
    rw [List.nil_append, exponentDigits_of_ends hrest]
    exact settled_floatOf _ _ _ _ _ rest h hrest
  | case2 acc symbol source hdigit =>
    rw [List.cons_append, exponentDigits, hdigit]
    exact settled_floatOf _ _ _ _ _ rest h hrest
  | case3 acc symbol source d hdigit hhuge =>
    rw [List.cons_append, exponentDigits, hdigit]
    simpa [hhuge] using settled_hugeExponent _ _ _ _ _ rest h hrest
  | case4 acc symbol source d hdigit hfits ih =>
    rw [List.cons_append, exponentDigits, hdigit]
    simpa [hfits] using ih h

theorem exponentSign_append {source tail : Source} {symbol : Symbol} {up : Bool} (rest : Source)
    (h : exponentSign source = (up, symbol :: tail)) :
    exponentSign (source ++ rest) = (up, symbol :: (tail ++ rest)) := by
  unfold exponentSign at h
  split at h
  · cases h
    rfl
  · cases h
    rfl
  · next hplus hminus =>
    cases h
    rw [List.cons_append, exponentSign]
    · exact fun other hother => hplus tail (by rw [(List.cons.inj hother).1])
    · exact fun other hother => hminus tail (by rw [(List.cons.inj hother).1])

theorem settled_scanExponent (negative : Bool) (significand : Nat) (start : Int) :
    Settled (scanExponent negative significand start) := by
  intro source number rest h hrest
  unfold scanExponent at h
  split at h
  · cases h
  · next up symbol tail hsign =>
    split at h
    · cases h
    · next d hdigit =>
      rw [scanExponent, exponentSign_append rest hsign]
      simp only [hdigit]
      exact settled_exponentDigits _ _ _ _ _ _ _ rest h hrest

theorem settled_afterFraction (negative : Bool) (significand : Nat) (exponent : Int) :
    Settled (afterFraction negative significand exponent) := by
  intro source number rest h hrest
  unfold afterFraction at h
  split at h
  · next symbol source =>
    rw [List.cons_append, afterFraction]
    split at h
    · next hmark =>
      rw [if_pos hmark]
      exact settled_scanExponent _ _ _ _ _ rest h hrest
    · next hmark =>
      rw [if_neg hmark]
      exact settled_floatOf _ _ _ _ _ rest h hrest
  · rw [List.nil_append, afterFraction_of_ends hrest]
    exact settled_floatOf _ _ _ _ _ rest h hrest

theorem settled_fractionDigits (negative : Bool) (significand : Nat) (before : Int) (taken : Nat) :
    Settled (fractionDigits negative significand before taken) := by
  intro source number rest h hrest
  fun_induction fractionDigits negative significand before taken source with
  | case1 significand => cases h
  | case2 significand taken htaken =>
    rw [List.nil_append, fractionDigits_of_ends hrest _ _ _ htaken]
    exact settled_floatOf _ _ _ _ _ rest h hrest
  | case3 significand taken symbol source d hdigit hlong =>
    rw [List.cons_append, fractionDigits, hdigit]
    simp only [hlong, if_true]
    rw [skipDigits_append source hrest]
    exact settled_afterFraction _ _ _ _ _ rest h hrest
  | case4 significand taken symbol source d hdigit hfits ih =>
    rw [List.cons_append, fractionDigits, hdigit]
    simpa [hfits] using ih h
  | case5 significand symbol source hdigit => cases h
  | case6 significand taken symbol source hdigit htaken =>
    rw [List.cons_append, fractionDigits, hdigit]
    simpa [htaken] using settled_afterFraction _ _ _ _ _ rest h hrest

theorem settled_longInteger (negative : Bool) (significand dropped : Nat) :
    Settled (longInteger negative significand dropped) := by
  intro source number rest h hrest
  fun_induction longInteger negative significand dropped source with
  | case1 dropped =>
    rw [List.nil_append, longInteger_of_ends hrest]
    exact settled_floatOf _ _ _ _ _ rest h hrest
  | case2 dropped symbol source hdigit ih =>
    rw [List.cons_append, longInteger, if_pos hdigit]
    exact ih h
  | case3 dropped source hdigit =>
    rw [List.cons_append, longInteger, if_neg hdigit, if_pos rfl]
    exact settled_fractionDigits _ _ _ _ _ _ rest h hrest
  | case4 dropped symbol source hdigit hpoint hmark =>
    rw [List.cons_append, longInteger, if_neg hdigit, if_neg hpoint, if_pos hmark]
    exact settled_scanExponent _ _ _ _ _ rest h hrest
  | case5 dropped symbol source hdigit hpoint hmark =>
    rw [List.cons_append, longInteger, if_neg hdigit, if_neg hpoint, if_neg hmark]
    exact settled_floatOf _ _ _ _ _ rest h hrest

theorem settled_afterInteger (negative : Bool) (significand : Nat) :
    Settled (afterInteger negative significand) := by
  intro source number rest h hrest
  unfold afterInteger at h
  split at h
  · exact settled_fractionDigits _ _ _ _ _ _ rest h hrest
  · next symbol source hpoint =>
    split at h
    · next hmark =>
      rw [List.cons_append, afterInteger, if_pos hmark]
      · exact settled_scanExponent _ _ _ _ _ rest h hrest
      · exact hpoint
    · cases h
  · cases h
    rw [List.nil_append, afterInteger_of_ends hrest]

theorem settled_integerDigits (negative : Bool) (significand : Nat) :
    Settled (integerDigits negative significand) := by
  intro source number rest h hrest
  fun_induction integerDigits negative significand source with
  | case1 significand =>
    cases h
    rw [List.nil_append, integerDigits_of_ends hrest]
  | case2 significand symbol source hdigit =>
    rw [List.cons_append, integerDigits, hdigit]
    exact settled_afterInteger _ _ _ _ rest h hrest
  | case3 significand symbol source d hdigit hlong =>
    rw [List.cons_append, integerDigits, hdigit]
    simpa [hlong] using settled_longInteger _ _ _ _ _ rest h hrest
  | case4 significand symbol source d hdigit hfits ih =>
    rw [List.cons_append, integerDigits, hdigit]
    simpa [hfits] using ih h

theorem settled_scanUnsigned (negative : Bool) : Settled (scanUnsigned negative) := by
  intro source number rest h hrest
  unfold scanUnsigned at h
  split at h
  · cases h
  · split at h
    · next symbol source =>
      split at h
      · cases h
      · next hdigit =>
        rw [List.cons_append, List.cons_append, scanUnsigned, if_neg hdigit]
        exact settled_afterInteger _ _ _ _ rest h hrest
    · -- No digit may follow a zero, and what stands behind starts with none.
      have hafter := settled_afterInteger _ _ _ _ rest h hrest
      cases rest with
      | nil => exact hafter
      | cons symbol rest =>
        rw [List.cons_append, List.nil_append, scanUnsigned, (hrest symbol rfl).1]
        exact hafter
  · next symbol source hzero =>
    split at h
    · next d hdigit =>
      rw [List.cons_append, scanUnsigned, hdigit]
      · exact settled_integerDigits _ _ _ _ rest h hrest
      · exact hzero
    · cases h

theorem scanNumber_of_ne_minus {source : Source} (h : ∀ rest, source ≠ .char '-' :: rest) :
    scanNumber source = scanUnsigned false source := by
  unfold scanNumber
  split
  · exact absurd rfl (h _)
  · rfl

theorem settled_scanNumber : Settled scanNumber := by
  intro source number rest h hrest
  unfold scanNumber at h
  split at h
  · exact settled_scanUnsigned _ _ _ rest h hrest
  · next hminus =>
    rw [scanNumber_of_ne_minus]
    · exact settled_scanUnsigned _ _ _ rest h hrest
    · intro tail htail
      cases source with
      | nil => cases h
      | cons symbol source => exact hminus source (by rw [(List.cons.inj htail).1])

theorem head_of_scanNumber {symbol : Symbol} {source rest : Source} {number : Number}
    (h : scanNumber (symbol :: source) = .ok (number, rest)) :
    symbol = .char '-' ∨ (digitOf? symbol).isSome := by
  unfold scanNumber at h
  split at h
  · next hminus => exact .inl (List.cons.inj hminus).1
  · right
    unfold scanUnsigned at h
    split at h
    · cases h
    · next hzero =>
      rw [(List.cons.inj hzero).1]
      rfl
    · next hcons =>
      obtain ⟨rfl, rfl⟩ := List.cons.inj hcons
      split at h
      · next d hdigit => simp [hdigit]
      · cases h

/-- The integers that fit a word of 64 bits, with or without a sign. -/
def IsWord (n : Int) : Prop :=
  -0x8000000000000000 ≤ n ∧ n ≤ 0xffffffffffffffff

theorem isWord_of_signed64 {n : Int} (h : WordRange.signed64.contains n) : IsWord n := by
  unfold WordRange.contains WordRange.signed64 at h
  simp only [Bool.and_eq_true, decide_eq_true_eq] at h
  unfold IsWord
  omega

section Integers

variable {n : Int} {source rest : Source} {negative up : Bool} {significand acc taken dropped : Nat}
  {exponent start before : Int}

theorem floatOf_ne_int : floatOf negative significand exponent source ≠ .ok (.int n, rest) := by
  unfold floatOf
  split <;> simp [fail]

theorem hugeExponent_ne_int : hugeExponent negative significand up source ≠ .ok (.int n, rest) := by
  unfold hugeExponent
  split <;> simp [fail]

theorem exponentDigits_ne_int :
    exponentDigits negative significand start up acc source ≠ .ok (.int n, rest) := by
  fun_induction exponentDigits <;> simp_all [floatOf_ne_int, hugeExponent_ne_int]

theorem scanExponent_ne_int :
    scanExponent negative significand start source ≠ .ok (.int n, rest) := by
  unfold scanExponent
  repeat' split
  all_goals simp [fail, exponentDigits_ne_int]

theorem afterFraction_ne_int :
    afterFraction negative significand exponent source ≠ .ok (.int n, rest) := by
  unfold afterFraction
  repeat' split
  all_goals simp [scanExponent_ne_int, floatOf_ne_int]

theorem fractionDigits_ne_int :
    fractionDigits negative significand before taken source ≠ .ok (.int n, rest) := by
  fun_induction fractionDigits <;> simp_all [fail, afterFraction_ne_int]

theorem longInteger_ne_int : longInteger negative significand dropped source ≠ .ok (.int n, rest) := by
  fun_induction longInteger <;>
    simp_all [floatOf_ne_int, fractionDigits_ne_int, scanExponent_ne_int]

theorem isWord_integerOf (hfits : significand ≤ maxSignificand)
    (h : integerOf negative significand = .int n) : IsWord n := by
  unfold maxSignificand at hfits
  unfold integerOf at h
  unfold IsWord
  split at h
  · split at h
    · cases h
    · cases h
      omega
  · cases h
    omega

theorem isWord_of_afterInteger (hfits : significand ≤ maxSignificand)
    (h : afterInteger negative significand source = .ok (.int n, rest)) : IsWord n := by
  unfold afterInteger at h
  split at h
  · exact absurd h fractionDigits_ne_int
  · split at h
    · exact absurd h scanExponent_ne_int
    · exact isWord_integerOf hfits (Prod.mk.inj (Except.ok.inj h)).1
  · exact isWord_integerOf hfits (Prod.mk.inj (Except.ok.inj h)).1

theorem isWord_of_integerDigits (hfits : significand ≤ maxSignificand)
    (h : integerDigits negative significand source = .ok (.int n, rest)) : IsWord n := by
  fun_induction integerDigits negative significand source with
  | case1 => exact isWord_of_afterInteger hfits h
  | case2 => exact isWord_of_afterInteger hfits h
  | case3 => exact absurd h longInteger_ne_int
  | case4 significand symbol source d hdigit hshort ih => exact ih (Nat.not_lt.1 hshort) h

theorem digitOf?_le {symbol : Symbol} {d : Nat} (h : digitOf? symbol = some d) : d ≤ 9 := by
  unfold digitOf? at h
  split at h
  · next c =>
    split at h
    · next hrange =>
      have hnine : c.toNat ≤ '9'.toNat := hrange.2
      have hvalue : '9'.toNat = 57 := by rfl
      have hd := Option.some.inj h
      omega
    · cases h
  · cases h

theorem isWord_of_scanNumber (h : scanNumber source = .ok (.int n, rest)) : IsWord n := by
  have hunsigned {negative : Bool} {source : Source}
      (h : scanUnsigned negative source = .ok (.int n, rest)) : IsWord n := by
    have hzero : 0 ≤ maxSignificand := Nat.zero_le _
    unfold scanUnsigned at h
    split at h
    · cases h
    · split at h
      · split at h
        · cases h
        · exact isWord_of_afterInteger hzero h
      · exact isWord_of_afterInteger hzero h
    · split at h
      · next d hdigit =>
        have hd : d ≤ maxSignificand := (digitOf?_le hdigit).trans (by decide)
        exact isWord_of_integerDigits hd h
      · cases h
  unfold scanNumber at h
  split at h <;> exact hunsigned h

end Integers

theorem digitOf?_of_isDigit {c : Char} (h : c.isDigit) :
    digitOf? (.char c) = some (c.toNat - '0'.toNat) := by
  have hrange : '0' ≤ c ∧ c ≤ '9' := by
    simpa [Char.isDigit, Char.le_def] using h
  rw [digitOf?, if_pos hrange]
  rfl

theorem le_ofDigitChars (digits : List Char) (n : Nat) : n ≤ Nat.ofDigitChars 10 digits n := by
  rw [Nat.ofDigitChars_eq_ofDigitChars_zero]
  exact (Nat.le_mul_of_pos_left n (by positivity)).trans (Nat.le_add_right _ _)

theorem integerDigits_digits (negative : Bool) {digits : List Char} (hdigits : ∀ c ∈ digits, c.isDigit)
    {n : Nat} (hfits : Nat.ofDigitChars 10 digits n ≤ maxSignificand) :
    integerDigits negative n (symbols digits) =
      .ok (integerOf negative (Nat.ofDigitChars 10 digits n), []) := by
  induction digits generalizing n with
  | nil => rfl
  | cons c digits ih =>
    obtain ⟨hc, hrest⟩ := List.forall_mem_cons.1 hdigits
    rw [Nat.ofDigitChars_cons, Nat.mul_comm] at hfits ⊢
    rw [symbols_cons, integerDigits, digitOf?_of_isDigit hc]
    dsimp only
    rw [if_neg (Nat.not_lt.2 ((le_ofDigitChars digits _).trans hfits))]
    exact ih hrest hfits

theorem exists_toDigits_eq_cons {n : Nat} (h : 0 < n) :
    ∃ c digits, Nat.toDigits 10 n = c :: digits ∧ c ≠ '0' := by
  induction n using Nat.strongRecOn with
  | ind n ih =>
    rw [Nat.toDigits_eq_if (by decide)]
    split
    · next hsmall =>
      refine ⟨_, [], rfl, ?_⟩
      interval_cases n <;> decide
    · next hlarge =>
      obtain ⟨c, digits, hdigits, hc⟩ := ih (n / 10) (by omega) (by omega)
      exact ⟨c, digits ++ [(n % 10).digitChar], by rw [hdigits]; rfl, hc⟩

theorem isDigit_of_mem {n : Nat} {c : Char} (h : c ∈ Nat.toDigits 10 n) : c.isDigit :=
  Nat.isDigit_of_mem_toDigits (by decide) (by decide) h

theorem scanUnsigned_toDigits (negative : Bool) {n : Nat} (hfits : n ≤ maxSignificand) :
    scanUnsigned negative (symbols (Nat.toDigits 10 n)) = .ok (integerOf negative n, []) := by
  rcases Nat.eq_zero_or_pos n with rfl | hpos
  · rfl
  · obtain ⟨c, digits, hdigits, hzero⟩ := exists_toDigits_eq_cons hpos
    have hall : ∀ c ∈ Nat.toDigits 10 n, c.isDigit := fun c hc => isDigit_of_mem hc
    have hvalue : Nat.ofDigitChars 10 (Nat.toDigits 10 n) 0 = n := Nat.ofDigitChars_ten_toDigits
    rw [hdigits] at hall hvalue ⊢
    obtain ⟨hc, hrest⟩ := List.forall_mem_cons.1 hall
    rw [Nat.ofDigitChars_cons, Nat.mul_zero, Nat.zero_add] at hvalue
    rw [symbols_cons, scanUnsigned, digitOf?_of_isDigit hc]
    · dsimp only
      rw [integerDigits_digits negative hrest (by rwa [hvalue]), hvalue]
    · exact fun h => hzero (Symbol.char.inj h)

theorem scanNumber_int {n : Int} (h : IsWord n) :
    scanNumber (symbols (Number.int n).text.toList) = .ok (.int n, []) := by
  obtain ⟨hlow, hhigh⟩ := h
  cases n with
  | ofNat n =>
    have hfits : n ≤ maxSignificand := Int.ofNat_le.1 hhigh
    have htext : (Number.int (.ofNat n)).text.toList = Nat.toDigits 10 n := by
      change (toString n).toList = _
      rw [Nat.toString_eq_ofList_toDigits, String.toList_ofList]
    rw [htext, scanNumber_of_ne_minus, scanUnsigned_toDigits false hfits]
    · rfl
    · intro rest hminus
      obtain ⟨c, digits, hdigits, hc, -⟩ := List.map_eq_cons_iff.1 hminus
      have hdigit := isDigit_of_mem (hdigits ▸ List.mem_cons_self)
      rw [Symbol.char.inj hc] at hdigit
      exact absurd hdigit (by decide)
  | negSucc n =>
    have hsmall : n + 1 ≤ 0x8000000000000000 := by omega
    have htext : (Number.int (.negSucc n)).text.toList = '-' :: Nat.toDigits 10 (n + 1) := by
      change ("-" ++ toString (n + 1)).toList = _
      simp
    have hword : integerOf true (n + 1) = .int (.negSucc n) := by
      rw [integerOf, if_pos rfl, if_neg (by omega)]
      rfl
    have hfits : n + 1 ≤ maxSignificand := by
      unfold maxSignificand
      omega
    rw [htext, symbols_cons, scanNumber, scanUnsigned_toDigits true hfits, hword]

end ThemeBlocks.Json

import Mathlib.Tactic.SplitIfs
import ThemeBlocks.Text.Encoding

/-! Texts in the order of their bytes. A character with a smaller number has an encoding that comes
first, whatever follows either of the two; so texts come one after the other as their bytes do. -/

namespace ThemeBlocks.Text

theorem val_lt_ceiling (c : Char) : c.val.toNat < 0x110000 := by
  rcases c.valid with hlow | ⟨-, hhigh⟩
  · exact Nat.lt_trans hlow (by decide)
  · exact hhigh

theorem ofNat_cons_lt_iff {x y : Nat} (hx : x < 256) (hy : y < 256) {rest more : List UInt8} :
    UInt8.ofNat x :: rest < UInt8.ofNat y :: more ↔ x < y ∨ x = y ∧ rest < more := by
  rw [List.cons_lt_cons_iff, UInt8.lt_iff_toNat_lt, ← UInt8.toNat_inj, UInt8.toNat_ofNat',
    UInt8.toNat_ofNat', Nat.mod_eq_of_lt hx, Nat.mod_eq_of_lt hy]

theorem encoding_append_lt {c d : Char} (h : c < d) (rest more : List UInt8) :
    String.utf8EncodeChar c ++ rest < String.utf8EncodeChar d ++ more := by
  have hlt : c.val.toNat < d.val.toNat := h
  have hceiling := val_lt_ceiling d
  -- The later bytes hold six bits each, so the numbers are compared digit by digit to the base 64.
  have hsecond : ∀ n, n / 4096 = n / 64 / 64 := fun n => by rw [Nat.div_div_eq_div_mul]
  have hthird : ∀ n, n / 262144 = n / 64 / 64 / 64 := fun n => by
    rw [Nat.div_div_eq_div_mul, Nat.div_div_eq_div_mul]
  unfold String.utf8EncodeChar
  generalize c.val.toNat = v at hlt
  generalize d.val.toNat = w at hlt hceiling
  simp only [hsecond, hthird]
  split_ifs <;>
    simp (disch := omega) only [List.cons_append, List.nil_append, ofNat_cons_lt_iff] <;> omega

theorem encoding_ne_nil (c : Char) : String.utf8EncodeChar c ≠ [] := by
  unfold String.utf8EncodeChar
  simp only []
  split_ifs <;> simp

theorem encodings_lt {cs ds : List Char} (h : cs < ds) :
    cs.flatMap String.utf8EncodeChar < ds.flatMap String.utf8EncodeChar := by
  induction h with
  | @nil d ds =>
    obtain ⟨byte, bytes, hencoding⟩ := List.exists_cons_of_ne_nil (encoding_ne_nil d)
    rw [List.flatMap_cons, hencoding]
    exact List.nil_lt_cons _ _
  | rel hfirst => exact encoding_append_lt hfirst _ _
  | cons _ ih => exact List.append_left_lt ih

/-- Texts are ordered as their bytes are. -/
theorem bytesOf_le_iff {a b : String} : bytesOf a ≤ bytesOf b ↔ a ≤ b := by
  constructor
  · intro h hlt
    exact h (encodings_lt hlt)
  · intro h hlt
    by_cases hback : b ≤ a
    · obtain rfl := String.le_antisymm h hback
      exact List.lt_irrefl _ hlt
    · exact List.lt_asymm hlt (encodings_lt (String.not_le.1 hback))

end ThemeBlocks.Text

import ThemeBlocks.Text.Lines

/-! Indentation, one character after the other. `shift` is what indentation does to a text from the
middle of a line: line endings become line feeds, and the blanks of the margin go behind each of them
unless the line there is empty. A line feed anywhere in a text is enough for the text to change. -/

namespace ThemeBlocks.Text

def startsBlank : List Char → Bool
  | '\n' :: _ => true
  | '\r' :: '\n' :: _ => true
  | _ => false

/-- The margin in front of a line, given the text from there on before and after shifting. -/
def atLineStart (depth : Nat) (text shifted : List Char) : List Char :=
  if startsBlank text then shifted else margin depth ++ shifted

def shift (depth : Nat) : List Char → List Char
  | [] => []
  | '\n' :: rest => '\n' :: atLineStart depth rest (shift depth rest)
  | '\r' :: '\n' :: rest => '\n' :: atLineStart depth rest (shift depth rest)
  | c :: rest => c :: shift depth rest

def shiftText (depth : Nat) (text : String) : String :=
  .ofList (shift depth text.toList)

theorem intercalate_cons_append (separator front line : List Char) (lines : List (List Char)) :
    List.intercalate separator ((front ++ line) :: lines) =
      front ++ List.intercalate separator (line :: lines) := by
  cases lines <;> simp

theorem getLast?_tail {c d : Char} {rest : List Char} (h : (c :: rest).getLast? ≠ some d)
    (hc : c = d) : rest ≠ [] ∧ rest.getLast? ≠ some d := by
  cases rest with
  | nil => simp [hc] at h
  | cons e rest => exact ⟨by simp, by simpa using h⟩

/-- The first line of a text as it is and the others indented make up the shifted text. -/
def Shifts (depth : Nat) (text : List Char) : Prop :=
  ∃ line lines, linesOf text = line :: lines ∧ (line = [] ↔ startsBlank text) ∧
    List.intercalate ['\n'] (line :: lines.map (indentLine depth)) = shift depth text

theorem intercalate_indentLine {depth : Nat} {text : List Char} (h : Shifts depth text) :
    List.intercalate ['\n'] ((linesOf text).map (indentLine depth)) =
      atLineStart depth text (shift depth text) := by
  obtain ⟨line, lines, hlines, hblank, hshift⟩ := h
  rw [hlines, ← hshift, atLineStart]
  cases line with
  | nil => simp [hblank.1 rfl, indentLine]
  | cons c line =>
    have hfull : startsBlank text = false := by simpa using hblank
    simp [hfull, indentLine, intercalate_cons_append]

theorem shifts_break {depth : Nat} {rest : List Char} (h : Shifts depth rest) :
    List.intercalate ['\n'] ([] :: (linesOf rest).map (indentLine depth)) =
      '\n' :: atLineStart depth rest (shift depth rest) := by
  rw [← intercalate_indentLine h]
  obtain ⟨line, lines, hlines, -, -⟩ := h
  simp [hlines]

theorem startsBlank_cons {c : Char} {rest : List Char} (hfeed : c ≠ '\n')
    (hreturn : ∀ more, c = '\r' → rest ≠ '\n' :: more) : startsBlank (c :: rest) = false := by
  unfold startsBlank
  split <;> simp_all

theorem eq_nil_of_linesOf {text : List Char} (h : linesOf text = []) : text = [] := by
  revert h
  fun_cases linesOf text <;> simp

theorem shifts_of_getLast (depth : Nat) {text : List Char} (hne : text ≠ [])
    (hlast : text.getLast? ≠ some '\n') : Shifts depth text := by
  fun_induction linesOf text with
  | case1 => exact absurd rfl hne
  | case2 rest ih =>
    obtain ⟨hrest, hend⟩ := getLast?_tail hlast rfl
    have h := ih hrest hend
    exact ⟨[], linesOf rest, by simp [linesOf], by simp [startsBlank], shifts_break h⟩
  | case3 rest ih =>
    obtain ⟨hrest, hend⟩ := getLast?_tail (by simpa using hlast) rfl
    have h := ih hrest hend
    exact ⟨[], linesOf rest, by simp [linesOf], by simp [startsBlank], shifts_break h⟩
  | case4 c rest hfeed hreturn hnil ih =>
    obtain rfl : rest = [] := eq_nil_of_linesOf hnil
    refine ⟨[c], [], by rw [linesOf.eq_4 c [] hfeed hreturn, hnil],
      by simp [startsBlank_cons hfeed hreturn], ?_⟩
    rw [shift.eq_4 depth c [] hfeed hreturn]
    simp [shift]
  | case5 c rest hfeed hreturn line lines hcons ih =>
    have hrest : rest ≠ [] := by
      rintro rfl
      simp [linesOf] at hcons
    obtain ⟨line', lines', hlines, -, hshift⟩ := ih hrest (by
      rwa [List.getLast?_cons_of_ne_nil hrest] at hlast)
    obtain ⟨rfl, rfl⟩ : line = line' ∧ lines = lines' := by simpa [hcons] using hlines
    refine ⟨c :: line, lines, by rw [linesOf.eq_4 c rest hfeed hreturn, hcons],
      by simp [startsBlank_cons hfeed hreturn], ?_⟩
    rw [shift.eq_4 depth c rest hfeed hreturn, ← hshift]
    exact intercalate_cons_append ['\n'] [c] line _

theorem linesOf_append_feed {text : List Char} {c : Char} (hlast : text.getLast? = some c)
    (hfeed : c ≠ '\n') (hreturn : c ≠ '\r') : linesOf (text ++ ['\n']) = linesOf text := by
  fun_induction linesOf text with
  | case1 => simp at hlast
  | case2 rest ih =>
    have hrest : rest ≠ [] := by
      rintro rfl
      exact hfeed (by simpa using hlast.symm)
    rw [List.getLast?_cons_of_ne_nil hrest] at hlast
    simp [linesOf, ih hlast]
  | case3 rest ih =>
    have hrest : rest ≠ [] := by
      rintro rfl
      exact hfeed (by simpa using hlast.symm)
    rw [List.getLast?_cons_cons, List.getLast?_cons_of_ne_nil hrest] at hlast
    simp [linesOf, ih hlast]
  | case4 d rest hd hdr hnil ih =>
    obtain rfl : rest = [] := eq_nil_of_linesOf hnil
    obtain rfl : d = c := by simpa using hlast
    simp [linesOf.eq_4 d ['\n'] hfeed (by simp [hreturn]), linesOf]
  | case5 d rest hd hdr line lines hcons ih =>
    cases rest with
    | nil => simp [linesOf] at hcons
    | cons e rest =>
      rw [List.getLast?_cons_cons] at hlast
      rw [List.cons_append, linesOf.eq_4 d _ hd (by simpa using hdr), ih hlast, hcons]

theorem toList_indent {text : String} {body : List Char} {c : Char} (depth : Nat)
    (htext : text.toList = body ++ ['\n']) (hlast : body.getLast? = some c) (hfeed : c ≠ '\n')
    (hreturn : c ≠ '\r') :
    (indent text depth).toList = atLineStart depth body (shift depth body) := by
  have hbody : body ≠ [] := by
    rintro rfl
    simp at hlast
  have h := shifts_of_getLast depth hbody (by simpa [hlast] using hfeed)
  rw [indent, String.toList_ofList, htext, linesOf_append_feed hlast hfeed hreturn]
  exact intercalate_indentLine h

/-- A text that does not end within a line ending, so that what follows is shifted on its own. -/
def Firm (text : List Char) : Prop :=
  ∀ depth back, shift depth (text ++ back) = shift depth text ++ shift depth back

theorem startsBlank_append_cons (front : List Char) {c : Char} (hfeed : c ≠ '\n')
    (hreturn : c ≠ '\r') (back : List Char) :
    startsBlank (front ++ c :: back) = startsBlank front := by
  rcases front with _ | ⟨d, _ | ⟨e, front⟩⟩
  · exact startsBlank_cons hfeed (fun _ h => absurd h hreturn)
  · by_cases hd : d = '\n'
    · simp [hd, startsBlank]
    · rw [List.singleton_append, startsBlank_cons hd (by simp [hfeed]), startsBlank_cons hd (by simp)]
  · by_cases hd : d = '\n'
    · simp [hd, startsBlank]
    · by_cases he : e = '\n'
      · by_cases hdr : d = '\r'
        · simp [hdr, he, startsBlank]
        · rw [List.cons_append, startsBlank_cons hd (fun _ h => absurd h hdr),
            startsBlank_cons hd (fun _ h => absurd h hdr)]
      · rw [List.cons_append, List.cons_append, startsBlank_cons hd (by simp [he]),
          startsBlank_cons hd (by simp [he])]

theorem shift_append_cons (depth : Nat) (front : List Char) {c : Char} (hfeed : c ≠ '\n')
    (hreturn : c ≠ '\r') (back : List Char) :
    shift depth (front ++ c :: back) = shift depth front ++ c :: shift depth back := by
  fun_induction shift depth front with
  | case1 => exact shift.eq_4 depth c back hfeed (fun _ h => absurd h hreturn)
  | case2 rest ih =>
    simp only [List.cons_append, shift, ih, atLineStart, startsBlank_append_cons rest hfeed hreturn]
    split <;> simp
  | case3 rest ih =>
    simp only [List.cons_append, shift, ih, atLineStart, startsBlank_append_cons rest hfeed hreturn]
    split <;> simp
  | case4 d rest hd hdr ih =>
    have hnext : ∀ more, d = '\r' → rest ++ c :: back ≠ '\n' :: more := by
      intro more hr
      cases rest with
      | nil => simp [hfeed]
      | cons e rest => simpa using fun he => absurd (hdr rest hr) (by simp [he])
    rw [List.cons_append, shift.eq_4 depth d _ hd hnext, ih, List.cons_append]

theorem firm_concat (front : List Char) {c : Char} (hfeed : c ≠ '\n') (hreturn : c ≠ '\r') :
    Firm (front ++ [c]) := by
  intro depth back
  have hlast := shift_append_cons depth front hfeed hreturn []
  rw [List.append_assoc, List.singleton_append, shift_append_cons depth front hfeed hreturn, hlast]
  simp [shift]

theorem Firm.append {front back : List Char} (hf : Firm front) (hb : Firm back) :
    Firm (front ++ back) := by
  intro depth rest
  rw [List.append_assoc, hf, hb, hf, List.append_assoc]

theorem firm_of_forall {text : List Char} (h : ∀ c ∈ text, c ≠ '\n' ∧ c ≠ '\r') : Firm text := by
  rcases List.eq_nil_or_concat text with rfl | ⟨front, c, rfl⟩
  · exact fun _ _ => rfl
  · obtain ⟨hfeed, hreturn⟩ := h c (by simp)
    simpa using firm_concat front hfeed hreturn

theorem firm_margin (depth : Nat) : Firm (margin depth) :=
  firm_of_forall fun c hc => by simp [List.eq_of_mem_replicate hc]

theorem shift_feed (depth : Nat) {rest : List Char} (h : startsBlank rest = false) :
    shift depth ('\n' :: rest) = '\n' :: (margin depth ++ shift depth rest) := by
  simp [shift, atLineStart, h]

theorem margin_append (depth extra : Nat) :
    margin depth ++ margin extra = margin (depth + extra) := by
  simp [margin, Nat.mul_add]

theorem shift_eq_self (depth : Nat) {text : List Char} (h : '\n' ∉ text) :
    shift depth text = text := by
  fun_induction shift depth text with
  | case1 => rfl
  | case2 rest ih => simp at h
  | case3 rest ih => simp at h
  | case4 c rest hc hcr ih => rw [ih (List.not_mem_of_not_mem_cons h)]

theorem shift_margin (depth extra : Nat) : shift depth (margin extra) = margin extra :=
  shift_eq_self depth fun hc => absurd (List.eq_of_mem_replicate hc) (by decide)

theorem mem_of_startsBlank {text : List Char} (h : startsBlank text) : '\n' ∈ text := by
  unfold startsBlank at h
  split at h <;> simp_all

theorem count_le_atLineStart (depth : Nat) (text shifted : List Char) :
    shifted.count ' ' ≤ (atLineStart depth text shifted).count ' ' := by
  unfold atLineStart
  split <;> simp

theorem count_le_shift (depth : Nat) (text : List Char) :
    text.count ' ' ≤ (shift depth text).count ' ' := by
  fun_induction shift depth text with
  | case1 => simp
  | case2 rest ih => simpa using Nat.le_trans ih (count_le_atLineStart depth rest _)
  | case3 rest ih => simpa using Nat.le_trans ih (count_le_atLineStart depth rest _)
  | case4 c rest hc hcr ih =>
    simp only [List.count_cons]
    omega

theorem count_lt_shift {depth : Nat} (hdepth : 0 < depth) {text : List Char} (h : '\n' ∈ text) :
    text.count ' ' < (shift depth text).count ' ' := by
  have hbreak : ∀ rest : List Char,
      ('\n' ∈ rest → rest.count ' ' < (shift depth rest).count ' ') →
        rest.count ' ' < (atLineStart depth rest (shift depth rest)).count ' ' := by
    intro rest ih
    unfold atLineStart
    split
    · exact ih (mem_of_startsBlank ‹_›)
    · have hle := count_le_shift depth rest
      simp only [List.count_append, margin, List.count_replicate_self]
      omega
  fun_induction shift depth text with
  | case1 => simp at h
  | case2 rest ih => simpa using hbreak rest ih
  | case3 rest ih => simpa using hbreak rest ih
  | case4 c rest hc hcr ih =>
    have hrest : '\n' ∈ rest := by simpa [Ne.symm hc] using h
    have hlt := ih hrest
    simp only [List.count_cons]
    omega

theorem shift_eq_self_iff {depth : Nat} (hdepth : 0 < depth) {text : List Char} :
    shift depth text = text ↔ '\n' ∉ text := by
  refine ⟨fun h hmem => ?_, shift_eq_self depth⟩
  have hlt := count_lt_shift hdepth hmem
  rw [h] at hlt
  exact absurd hlt (Nat.lt_irrefl _)

def OneLine (text : String) : Prop :=
  '\n' ∉ text.toList

instance (text : String) : Decidable (OneLine text) :=
  inferInstanceAs (Decidable (¬ _))

@[simp] theorem oneLine_append {front back : String} :
    OneLine (front ++ back) ↔ OneLine front ∧ OneLine back := by
  simp [OneLine]

/-- Only the texts of one line stay what they are. -/
theorem shiftText_eq_self_iff {depth : Nat} (hdepth : 0 < depth) {text : String} :
    shiftText depth text = text ↔ OneLine text := by
  rw [OneLine, ← shift_eq_self_iff hdepth, ← String.toList_inj, shiftText, String.toList_ofList]

end ThemeBlocks.Text

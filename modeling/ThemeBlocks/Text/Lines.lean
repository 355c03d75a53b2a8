/-! Lines of a text. A line ends at a line feed; a carriage return right before the line feed belongs
to the ending, a carriage return elsewhere belongs to the line. Text after the last line feed is a line
only if there is some. `indent` shifts every line that is not empty by whole levels of four spaces. -/

namespace ThemeBlocks.Text

def linesOf : List Char → List (List Char)
  | [] => []
  | '\n' :: rest => [] :: linesOf rest
  | '\r' :: '\n' :: rest => [] :: linesOf rest
  | c :: rest =>
    match linesOf rest with
    | [] => [[c]]
    | line :: lines => (c :: line) :: lines

def margin (depth : Nat) : List Char :=
  List.replicate (4 * depth) ' '

def indentLine (depth : Nat) : List Char → List Char
  | [] => []
  | line => margin depth ++ line

def indent (text : String) (depth : Nat) : String :=
  .ofList (List.intercalate ['\n'] ((linesOf text.toList).map (indentLine depth)))

def splitAtChar (mark : Char) : List Char → List (List Char)
  | [] => [[]]
  | c :: rest =>
    if c = mark then [] :: splitAtChar mark rest
    else
      match splitAtChar mark rest with
      | [] => [[c]]
      | piece :: pieces => (c :: piece) :: pieces

theorem splitAtChar_ne_nil (mark : Char) (text : List Char) : splitAtChar mark text ≠ [] := by
  cases text with
  | nil => simp [splitAtChar]
  | cons c rest =>
    by_cases h : c = mark
    · simp [splitAtChar, h]
    · simp only [splitAtChar, h, if_false]
      split <;> simp

theorem intercalate_splitAtChar (mark : Char) (text : List Char) :
    List.intercalate [mark] (splitAtChar mark text) = text := by
  induction text with
  | nil => simp [splitAtChar]
  | cons c rest ih =>
    by_cases h : c = mark
    · subst h
      simp only [splitAtChar, if_true]
      cases hs : splitAtChar c rest with
      | nil => exact absurd hs (splitAtChar_ne_nil c rest)
      | cons piece pieces =>
        rw [hs] at ih
        simp [List.intercalate, List.intersperse] at ih ⊢
        exact ih
    · simp only [splitAtChar, h, if_false]
      cases hs : splitAtChar mark rest with
      | nil => exact absurd hs (splitAtChar_ne_nil mark rest)
      | cons piece pieces =>
        rw [hs] at ih
        cases pieces <;> simp [List.intercalate, List.intersperse] at ih ⊢ <;> exact ih

end ThemeBlocks.Text

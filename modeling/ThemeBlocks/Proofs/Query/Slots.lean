import Mathlib.Data.List.Infix
import ThemeBlocks.Proofs.Query.Selections
import ThemeBlocks.Proofs.Text.Shift

/-! Where the slots of a template are. The pieces around the slots have no mark in them, and no other
pieces without a mark come to the same text, since no mark begins where another one has not ended. So
two queries of one template differ in the slots alone, and the full query of a registry without blocks
is the minimal query. What the full query has in a slot is written out here, and read as a query too. -/

namespace ThemeBlocks.Query

open Text (intercalate_cons_append)

/-- The text is what comes of the parts with a mark between them, and no part has a mark in it. -/
structure IsDivided (mark text : List Char) (parts : List (List Char)) : Prop where
  joined : mark.intercalate parts = text
  unmarked : ∀ part ∈ parts, ¬ mark <:+: part

section Divided

variable {mark text part next : List Char} {parts : List (List Char)}

theorem isDivided_singleton_iff : IsDivided mark text [part] ↔ text = part ∧ ¬ mark <:+: part := by
  constructor
  · intro h
    exact ⟨by simpa using h.joined.symm, h.unmarked part (List.mem_singleton_self part)⟩
  · rintro ⟨rfl, hpart⟩
    exact ⟨by simp, List.forall_mem_singleton.2 hpart⟩

theorem isDivided_cons_iff (hne : parts ≠ []) :
    IsDivided mark text (part :: parts) ↔
      ∃ rest, text = part ++ (mark ++ rest) ∧ ¬ mark <:+: part ∧ IsDivided mark rest parts := by
  constructor
  · intro h
    obtain ⟨hpart, hparts⟩ := List.forall_mem_cons.1 h.unmarked
    refine ⟨mark.intercalate parts, ?_, hpart, rfl, hparts⟩
    rw [← h.joined, List.intercalate_cons_of_ne_nil hne, List.append_assoc]
  · rintro ⟨rest, rfl, hpart, hrest⟩
    refine ⟨?_, List.forall_mem_cons.2 ⟨hpart, hrest.unmarked⟩⟩
    rw [List.intercalate_cons_of_ne_nil hne, hrest.joined, List.append_assoc]

theorem IsDivided.infix_of_ne_nil (h : IsDivided mark text (part :: parts)) (hne : parts ≠ []) :
    mark <:+: text := by
  obtain ⟨rest, rfl, -, -⟩ := (isDivided_cons_iff hne).1 h
  exact ⟨part, rest, List.append_assoc _ _ _⟩

theorem IsDivided.cons_char {c : Char} (h : IsDivided mark text (part :: parts))
    (hstart : ¬ mark <+: c :: text) : IsDivided mark (c :: text) ((c :: part) :: parts) := by
  obtain ⟨hpart, hparts⟩ := List.forall_mem_cons.1 h.unmarked
  have hjoined : mark.intercalate ((c :: part) :: parts) = c :: text := by
    rw [← h.joined]
    exact intercalate_cons_append mark [c] part parts
  refine ⟨hjoined, List.forall_mem_cons.2 ⟨fun hinside => ?_, hparts⟩⟩
  rcases List.infix_cons_iff.1 hinside with hstarts | hinfix
  · refine hstart (hstarts.trans ?_)
    rw [← hjoined]
    cases parts <;> simp
  · exact hpart hinfix

end Divided

theorem dropMark?_eq_some_iff {mark text rest : List Char} :
    dropMark? mark text = some rest ↔ text = mark ++ rest := by
  induction mark generalizing text with
  | nil => simp [dropMark?]
  | cons m mark ih =>
    cases text with
    | nil => simp [dropMark?]
    | cons c text =>
      by_cases hc : m = c
      · simp [dropMark?, hc, ih]
      · simp [dropMark?, hc, Ne.symm hc]

theorem dropMark?_eq_none_iff {mark text : List Char} :
    dropMark? mark text = none ↔ ¬ mark <+: text := by
  rw [Option.eq_none_iff_forall_not_mem, List.IsPrefix, not_exists]
  refine forall_congr' fun rest => not_congr ?_
  rw [Option.mem_def, dropMark?_eq_some_iff, eq_comm]

section Pieces

variable (m : Char) (mark : List Char)

theorem piecesBetween_ne_nil (text : List Char) : piecesBetween m mark text ≠ [] := by
  fun_cases piecesBetween m mark text <;> simp_all

theorem isDivided_piecesBetween (text : List Char) :
    IsDivided (m :: mark) text (piecesBetween m mark text) := by
  fun_induction piecesBetween m mark text with
  | case1 => exact isDivided_singleton_iff.2 ⟨rfl, by simp⟩
  | case2 c text rest hmark ih =>
    have htext : c :: text = m :: mark ++ rest := dropMark?_eq_some_iff.1 hmark
    exact (isDivided_cons_iff (piecesBetween_ne_nil m mark rest)).2 ⟨rest, htext, by simp, ih⟩
  | case3 c text hmark hnone ih => exact absurd hnone (piecesBetween_ne_nil m mark text)
  | case4 c text hmark piece pieces hpieces ih =>
    rw [hpieces] at ih
    exact ih.cons_char (dropMark?_eq_none_iff.1 hmark)

end Pieces

/-- No end of the mark is also its beginning, so that two marks never overlap. -/
def EndsApart (mark : List Char) : Prop :=
  ∀ n, 0 < n → n < mark.length → ¬ mark.drop n <+: mark

section Unique

variable {mark : List Char} (happart : EndsApart mark)

include happart

theorem EndsApart.eq_nil {between front back : List Char} (hlength : between.length < mark.length)
    (h : mark ++ front = between ++ (mark ++ back)) : between = [] := by
  by_contra hbetween
  have hstarts : between <+: mark :=
    List.prefix_of_prefix_length_le ⟨_, h.symm⟩ ⟨front, rfl⟩ hlength.le
  obtain ⟨tail, rfl⟩ := hstarts
  rw [List.append_assoc, List.append_cancel_left_eq] at h
  -- What is left of the one mark stands where the other one begins.
  refine happart between.length (List.length_pos_iff.2 hbetween) hlength ?_
  rw [List.drop_left]
  exact List.prefix_of_prefix_length_le ⟨front, h⟩ ⟨back, rfl⟩ (by simp)

theorem EndsApart.eq_of_append {part other front back : List Char} (hother : ¬ mark <:+: other)
    (hlength : part.length ≤ other.length)
    (h : part ++ (mark ++ front) = other ++ (mark ++ back)) : part = other := by
  have hstarts : part <+: other := List.prefix_of_prefix_length_le ⟨_, h⟩ ⟨_, rfl⟩ hlength
  obtain ⟨between, rfl⟩ := hstarts
  rw [List.append_assoc, List.append_cancel_left_eq] at h
  rcases Nat.lt_or_ge between.length mark.length with hshort | hlong
  · rw [happart.eq_nil hshort h, List.append_nil]
  · have hinside : mark <+: between :=
      List.prefix_of_prefix_length_le ⟨_, h⟩ ⟨_, rfl⟩ hlong
    exact absurd (hinside.isInfix.trans (List.suffix_append part between).isInfix) hother

theorem IsDivided.unique {text : List Char} {parts others : List (List Char)}
    (hparts : IsDivided mark text parts) (hothers : IsDivided mark text others) (hne : parts ≠ [])
    (hne' : others ≠ []) : parts = others := by
  induction parts generalizing text others with
  | nil => exact absurd rfl hne
  | cons part parts ih =>
    obtain ⟨other, others, rfl⟩ := List.exists_cons_of_ne_nil hne'
    have hpart := hparts.unmarked part List.mem_cons_self
    have hother := hothers.unmarked other List.mem_cons_self
    by_cases hlast : parts = []
    · subst hlast
      obtain ⟨rfl, -⟩ := isDivided_singleton_iff.1 hparts
      by_cases hlast' : others = []
      · subst hlast'
        rw [(isDivided_singleton_iff.1 hothers).1]
      · exact absurd (hothers.infix_of_ne_nil hlast') hpart
    · by_cases hlast' : others = []
      · subst hlast'
        obtain ⟨rfl, -⟩ := isDivided_singleton_iff.1 hothers
        exact absurd (hparts.infix_of_ne_nil hlast) hother
      · obtain ⟨rest, htext, -, hrest⟩ := (isDivided_cons_iff hlast).1 hparts
        obtain ⟨rest', htext', -, hrest'⟩ := (isDivided_cons_iff hlast').1 hothers
        have hjoined := htext.symm.trans htext'
        have hfirst : part = other := by
          rcases Nat.le_total part.length other.length with hlength | hlength
          · exact happart.eq_of_append hother hlength hjoined
          · exact (happart.eq_of_append hpart hlength hjoined.symm).symm
        subst hfirst
        obtain rfl : rest = rest' := by simpa using hjoined
        rw [ih hrest hrest' hlast hlast']

end Unique

theorem endsApart_slotMark : EndsApart slotMark.toList := by
  have h : ∀ n : Fin slotMark.toList.length, 0 < n.val →
      ¬ slotMark.toList.drop n.val <+: slotMark.toList := by decide
  exact fun n hpos hlength => h ⟨n, hlength⟩ hpos

theorem isDivided_pieces (text : String) : IsDivided slotMark.toList text.toList (pieces text) :=
  isDivided_piecesBetween _ _ _

theorem pieces_ne_nil (text : String) : pieces text ≠ [] :=
  piecesBetween_ne_nil _ _ _

theorem one_lt_length_pieces_iff {text : String} :
    1 < (pieces text).length ↔ slotMark.toList <:+: text.toList := by
  have hdivided := isDivided_pieces text
  obtain ⟨piece, more, hpieces⟩ := List.exists_cons_of_ne_nil (pieces_ne_nil text)
  rw [hpieces] at hdivided ⊢
  cases more with
  | nil =>
    obtain ⟨rfl, hpiece⟩ := isDivided_singleton_iff.1 hdivided
    simpa using hpiece
  | cons next more => simpa using hdivided.infix_of_ne_nil (List.cons_ne_nil next more)

namespace Template

variable (template : Template)

theorem ofText_eq_ok_iff {text : String} {template : Template} :
    ofText text = .ok template ↔ template.text = text := by
  unfold ofText
  constructor
  · intro h
    split at h
    · cases h
      rfl
    · cases h
  · rintro rfl
    rw [dif_pos template.hasSlot]

theorem exists_ofText_iff {text : String} :
    (∃ template, ofText text = .ok template) ↔ slotMark.toList <:+: text.toList := by
  rw [← one_lt_length_pieces_iff]
  simp only [ofText_eq_ok_iff]
  constructor
  · rintro ⟨template, rfl⟩
    exact template.hasSlot
  · exact fun h => ⟨⟨text, h⟩, rfl⟩

theorem isDivided_iff {parts : List (List Char)} :
    IsDivided slotMark.toList template.text.toList parts ↔ parts = pieces template.text := by
  constructor
  · intro h
    refine h.unique endsApart_slotMark (isDivided_pieces _) ?_ (pieces_ne_nil _)
    rintro rfl
    have hinfix := one_lt_length_pieces_iff.1 template.hasSlot
    rw [← h.joined] at hinfix
    exact absurd (List.infix_nil.1 hinfix) (by decide)
  · rintro rfl
    exact isDivided_pieces _

end Template

theorem length_intercalate (glue part : List Char) (parts : List (List Char)) :
    (glue.intercalate (part :: parts)).length =
      (part :: parts).flatten.length + parts.length * glue.length := by
  induction parts generalizing part with
  | nil => simp
  | cons next parts ih =>
    have hlast := ih next
    have hflatten : (part :: next :: parts).flatten = part ++ (next :: parts).flatten := rfl
    rw [List.intercalate_cons_cons, List.length_append, List.length_append, hlast, hflatten,
      List.length_append, List.length_cons, Nat.succ_mul]
    omega

theorem intercalate_nil_glue (parts : List (List Char)) :
    List.intercalate [] parts = parts.flatten := by
  induction parts with
  | nil => rfl
  | cons part parts ih =>
    cases parts with
    | nil => simp
    | cons next parts => rw [List.intercalate_cons_cons, ih, List.append_nil, ← List.flatten_cons]

theorem intercalate_eq_flatten_iff {glue : List Char} {parts : List (List Char)}
    (h : 1 < parts.length) : glue.intercalate parts = parts.flatten ↔ glue = [] := by
  constructor
  · intro heq
    cases parts with
    | nil => simp at h
    | cons part parts =>
      have hlength := length_intercalate glue part parts
      rw [heq] at hlength
      have hproduct : parts.length * glue.length = 0 := by omega
      rcases Nat.mul_eq_zero.1 hproduct with hparts | hglue
      · simp [hparts] at h
      · exact List.length_eq_zero_iff.1 hglue
  · rintro rfl
    exact intercalate_nil_glue parts

theorem toList_selections_eq_nil_iff {blocks : List Block.Descriptor} :
    (selections blocks).toList = [] ↔ blocks = [] := by
  cases blocks with
  | nil => simp [selections]
  | cons block blocks => simp [selections, selection]

theorem build_blocks (registry : Registry) :
    ∃ fragment, build registry.blocks = .ok fragment ∧
      fragment.getD "" = selections registry.blocks := by
  by_cases h : registry.blocks = []
  · rw [h]
    exact ⟨none, rfl, rfl⟩
  · exact ⟨_, build_eq_selections registry h, rfl⟩

theorem Template.render_none (template : Template) :
    template.render none = .ofList (pieces template.text).flatten :=
  congrArg String.ofList (intercalate_nil_glue _)

theorem Template.fullQuery_eq (template : Template) (registry : Registry) :
    template.fullQuery registry =
      .ok (.ofList ((selections registry.blocks).toList.intercalate (pieces template.text))) := by
  obtain ⟨fragment, hbuild, hfragment⟩ := build_blocks registry
  have hfull : template.render fragment =
      .ofList ((selections registry.blocks).toList.intercalate (pieces template.text)) := by
    rw [Template.render, Template.fill, hfragment]
  rw [← hfull]
  exact bind_of_ok hbuild

theorem Template.fullQuery_eq_minimalQuery_iff (template : Template) (registry : Registry) :
    template.fullQuery registry = .ok template.minimalQuery ↔ registry.blocks = [] := by
  rw [template.fullQuery_eq, Template.minimalQuery, template.render_none, Except.ok.injEq,
    String.ofList_inj, intercalate_eq_flatten_iff template.hasSlot, toList_selections_eq_nil_iff]

/-- A template is accepted if it has a mark somewhere. It is divided in one way then, with a slot
wherever two parts meet, and what it renders is the parts with the fragment in the slots. So the two
queries of a registry differ in the slots alone: there the full query has one selection after the other,
of each block in the order of the registry, and the minimal query has nothing. The slot reads as these
selections exactly if all type names are names. -/
theorem template_slots (text : String) :
    ((∃ template, Template.ofText text = .ok template) ↔
        "\x7b\x7bblocks\x7d\x7d".toList <:+: text.toList) ∧
      ∀ template, Template.ofText text = .ok template → ∃ parts,
        (∀ others, IsDivided "\x7b\x7bblocks\x7d\x7d".toList text.toList others ↔ others = parts) ∧
        1 < parts.length ∧
        (∀ fragment, template.render (some fragment) = .ofList (fragment.toList.intercalate parts)) ∧
        template.render none = .ofList parts.flatten ∧
        template.minimalQuery = .ofList parts.flatten ∧
        ∀ registry : Registry, ∃ full slot, template.fullQuery registry = .ok full ∧
          full = .ofList (slot.toList.intercalate parts) ∧
          slot = String.join (registry.blocks.map fun block => "\n... on " ++ block.typeName ++
            " \x7b\n  apiVersion\n  attributes \x7b\n    data\n  \x7d\n\x7d") ∧
          (readSelections? slot = some (registry.blocks.map fun block => .inline (some block.typeName)
              [.field none "apiVersion" [], .field none "attributes" [.field none "data" []]]) ↔
            ∀ block ∈ registry.blocks, isName block.typeName) ∧
          (full = template.minimalQuery ↔ registry.blocks = []) := by
  refine ⟨Template.exists_ofText_iff, fun template htemplate => ?_⟩
  obtain rfl := Template.ofText_eq_ok_iff.1 htemplate
  have hempty := template.render_none
  refine ⟨pieces template.text, fun others => template.isDivided_iff, template.hasSlot,
    fun fragment => rfl, hempty, hempty, fun registry => ?_⟩
  have hsame := template.fullQuery_eq_minimalQuery_iff registry
  rw [template.fullQuery_eq, Except.ok.injEq] at hsame
  exact ⟨_, selections registry.blocks, template.fullQuery_eq registry, rfl, rfl,
    readSelections?_selections_iff, hsame⟩

def twoSlots : String := "\x7b\x7bblocks\x7d\x7d of \x7b\x7b\x7bblocks\x7d\x7d"

theorem template_slots_twoNames :
    ∃ template, Template.ofText twoSlots = .ok template ∧
      template.minimalQuery = " of \x7b" ∧
      ∃ full slot, template.fullQuery twoNames = .ok full ∧ full = slot ++ " of \x7b" ++ slot ∧
        readSelections? slot = some [wanted "AcfHero", wanted "_9TB"] ∧
        full ≠ template.minimalQuery := by
  have hmarked : "\x7b\x7bblocks\x7d\x7d".toList <:+: twoSlots.toList := by decide
  obtain ⟨template, htemplate⟩ := (template_slots twoSlots).1.2 hmarked
  obtain ⟨parts, hparts, -, -, -, hminimal, hfull⟩ := (template_slots twoSlots).2 template htemplate
  have hdivided : IsDivided "\x7b\x7bblocks\x7d\x7d".toList twoSlots.toList
      [[], " of \x7b".toList, []] := ⟨rfl, by decide⟩
  obtain rfl := (hparts _).1 hdivided
  obtain ⟨full, slot, hquery, rfl, -, hreads, hne⟩ := hfull twoNames
  refine ⟨template, htemplate, hminimal, _, slot, hquery, ?_, hreads.2 (by decide), ?_⟩
  · apply String.toList_inj.1
    simp
  · exact fun h => absurd (hne.1 h) (by simp [twoNames])

end ThemeBlocks.Query

import Mathlib.Data.List.Nodup
import ThemeBlocks.Proofs.Block.Accepted

/-! The verdict on a list of blocks. A list is accepted exactly if it keeps five rules, which do not
depend on the order of the blocks. A list that breaks one is refused for its first breach: names and
keys are looked at block by block, then block names against each other, then type names block by
block. Where two elements clash, the failure names the earliest one that has a rival in front of it,
and that rival, of which there is only one. -/

namespace ThemeBlocks.Block

open Text

structure FitName (name : String) : Prop where
  nonempty : name ≠ ""
  chars : ∀ c ∈ name.toList, isAsciiLower c ∨ isAsciiDigit c ∨ c = '-' ∨ c = '_'
  start : name.toList.head? ≠ some '-'

/-- No two attribute keys become the same variable. -/
def FitKeys (block : Descriptor) : Prop :=
  (block.attributeList.map fun entry => Php.identifier entry.1).Nodup

structure FitType (typeName : String) : Prop where
  capitals : (typeName.toList.filter isAsciiUpper).length = 2
  slash : '/' ∉ typeName.toList

structure Acceptable (blocks : List Descriptor) : Prop where
  names : ∀ block ∈ blocks, FitName block.blockName
  keys : ∀ block ∈ blocks, FitKeys block
  distinctNames : (blocks.map Descriptor.blockName).Nodup
  types : ∀ block ∈ blocks, FitType block.typeName
  distinctTypes : (blocks.map Descriptor.typeName).Nodup

def misnamed (name : String) : Failure :=
  .configuration s!"Invalid block name '{name}': use lowercase letters, digits, '-' and '_'"

/-- The only one of the elements that agrees with `second` under the view. -/
def OnlyRival {α β : Type} (view : α → β) (elements : List α) (first second : α) : Prop :=
  first ∈ elements ∧ view first = view second ∧
    ∀ other ∈ elements, view other = view second → other = first

/-- `second` is the earliest element that agrees with one in front of it, and `first` is that one. -/
def FirstClash {α β : Type} (view : α → β) (elements : List α) (first second : α) : Prop :=
  ∃ before, before ++ [second] <+: elements ∧ (before.map view).Nodup ∧
    OnlyRival view before first second

/-- The first breach of a rule, with the failure that tells of it. `before` are the blocks in front of
the one that breaks it. -/
inductive FirstBreach (blocks : List Descriptor) : Failure → Prop
  | name {before : List Descriptor} {block : Descriptor} :
      before ++ [block] <+: blocks →
      (∀ other ∈ before, FitName other.blockName ∧ FitKeys other) →
      ¬ FitName block.blockName →
      FirstBreach blocks (misnamed block.blockName)
  | keys {before : List Descriptor} {block : Descriptor} {first second : String} :
      before ++ [block] <+: blocks →
      (∀ other ∈ before, FitName other.blockName ∧ FitKeys other) →
      FitName block.blockName →
      FirstClash Php.identifier (block.attributeList.map (·.1)) first second →
      FirstBreach blocks (.keyCollision block.blockName (Php.identifier second) first second)
  | blockName {first second : Descriptor} :
      (∀ block ∈ blocks, FitName block.blockName ∧ FitKeys block) →
      FirstClash Descriptor.blockName blocks first second →
      FirstBreach blocks (.duplicateBlock second.blockName)
  | capitals {before : List Descriptor} {block : Descriptor} :
      (∀ block ∈ blocks, FitName block.blockName ∧ FitKeys block) →
      (blocks.map Descriptor.blockName).Nodup →
      before ++ [block] <+: blocks →
      (∀ other ∈ before, FitType other.typeName) →
      (before.map Descriptor.typeName).Nodup →
      (block.typeName.toList.filter isAsciiUpper).length ≠ 2 →
      FirstBreach blocks (.naming block.blockName block.typeName
        (.capitals (block.typeName.toList.filter isAsciiUpper).length))
  | slash {before : List Descriptor} {block : Descriptor} :
      (∀ block ∈ blocks, FitName block.blockName ∧ FitKeys block) →
      (blocks.map Descriptor.blockName).Nodup →
      before ++ [block] <+: blocks →
      (∀ other ∈ before, FitType other.typeName) →
      (before.map Descriptor.typeName).Nodup →
      (block.typeName.toList.filter isAsciiUpper).length = 2 →
      '/' ∈ block.typeName.toList →
      FirstBreach blocks (.naming block.blockName block.typeName .slash)
  | typeName {before : List Descriptor} {first second : Descriptor} :
      (∀ block ∈ blocks, FitName block.blockName ∧ FitKeys block) →
      (blocks.map Descriptor.blockName).Nodup →
      before ++ [second] <+: blocks →
      (∀ other ∈ before ++ [second], FitType other.typeName) →
      (before.map Descriptor.typeName).Nodup →
      OnlyRival Descriptor.typeName before first second →
      FirstBreach blocks (.duplicateType second.typeName first.blockName second.blockName)

theorem isBlockName_iff {name : String} : isBlockName name ↔ FitName name := by
  have hchar : ∀ c, isNameChar c = true ↔
      (isAsciiLower c ∨ isAsciiDigit c ∨ c = '-' ∨ c = '_') := by
    intro c
    simp [isNameChar, or_assoc]
  unfold isBlockName
  cases hn : name.toList with
  | nil =>
    have hempty : name = "" := by rw [← String.ofList_toList (s := name), hn]
    simpa using fun h : FitName name => h.nonempty hempty
  | cons c rest =>
    simp only [Bool.and_eq_true, List.all_eq_true, hchar, decide_eq_true_eq]
    constructor
    · rintro ⟨⟨hstart, hc⟩, hrest⟩
      refine ⟨?_, ?_, ?_⟩
      · rintro rfl
        cases hn
      · rw [hn]
        exact List.forall_mem_cons.2 ⟨hc, hrest⟩
      · simpa [hn] using hstart
    · intro h
      have hchars := h.chars
      rw [hn, List.forall_mem_cons] at hchars
      have hstart := h.start
      rw [hn] at hstart
      exact ⟨⟨by simpa using hstart, hchars.1⟩, hchars.2⟩

theorem checkName_fits_iff {block : Descriptor} :
    checkName block = .ok () ↔ FitName block.blockName :=
  checkName_eq_ok_iff.trans isBlockName_iff

theorem checkName_eq_error_iff {block : Descriptor} {failure : Failure} :
    checkName block = .error failure ↔
      ¬ FitName block.blockName ∧ failure = misnamed block.blockName := by
  rw [← isBlockName_iff]
  unfold checkName
  by_cases h : isBlockName block.blockName
  · rw [if_pos h]
    exact ⟨fun hok => (nomatch hok), fun hbad => absurd h hbad.1⟩
  · rw [if_neg h]
    constructor
    · intro herror
      cases herror
      exact ⟨h, rfl⟩
    · rintro ⟨-, rfl⟩
      rfl

theorem checkTypeName_fits_iff {block : Descriptor} :
    checkTypeName block = .ok () ↔ FitType block.typeName := by
  have hcount : (block.typeName.toList.filter isAsciiUpper).length = capitals block.typeName :=
    List.countP_eq_length_filter.symm
  unfold checkTypeName
  by_cases hcapitals : capitals block.typeName = requiredCapitals
  · by_cases hslash : '/' ∈ block.typeName.toList
    · rw [if_neg (not_not.2 hcapitals), if_pos hslash]
      exact ⟨fun hok => (nomatch hok), fun hfit => absurd hslash hfit.slash⟩
    · rw [if_neg (not_not.2 hcapitals), if_neg hslash]
      exact ⟨fun _ => ⟨hcount.trans hcapitals, hslash⟩, fun _ => rfl⟩
  · rw [if_pos hcapitals]
    exact ⟨fun hok => (nomatch hok), fun hfit => absurd (hcount.symm.trans hfit.capitals) hcapitals⟩

theorem checkTypeName_eq_error_iff {block : Descriptor} {failure : Failure} :
    checkTypeName block = .error failure ↔
      ((block.typeName.toList.filter isAsciiUpper).length ≠ 2 ∧
        failure = .naming block.blockName block.typeName
          (.capitals (block.typeName.toList.filter isAsciiUpper).length)) ∨
      ((block.typeName.toList.filter isAsciiUpper).length = 2 ∧ '/' ∈ block.typeName.toList ∧
        failure = .naming block.blockName block.typeName .slash) := by
  have hcount : (block.typeName.toList.filter isAsciiUpper).length = capitals block.typeName :=
    List.countP_eq_length_filter.symm
  rw [hcount]
  unfold checkTypeName requiredCapitals
  by_cases hcapitals : capitals block.typeName = 2
  · by_cases hslash : '/' ∈ block.typeName.toList
    · simp [hcapitals, hslash, eq_comm]
    · simp [hcapitals, hslash]
  · simp [hcapitals, eq_comm]

section Clash

variable {α β : Type} {view : α → β} {elements : List α}

theorem find?_eq_some_iff_onlyRival [DecidableEq β] {first second : α}
    (hnodup : (elements.map view).Nodup) :
    elements.find? (view · = view second) = some first ↔ OnlyRival view elements first second := by
  constructor
  · intro hfind
    have hfirst := List.mem_of_find?_eq_some hfind
    have hview : view first = view second := by simpa using List.find?_some hfind
    refine ⟨hfirst, hview, fun other hother hagree => ?_⟩
    exact List.inj_on_of_nodup_map hnodup hother hfirst (hagree.trans hview.symm)
  · rintro ⟨hfirst, hview, honly⟩
    cases hfind : elements.find? (view · = view second) with
    | none => exact absurd hview (by simpa using List.find?_eq_none.1 hfind first hfirst)
    | some other =>
      have hother := List.mem_of_find?_eq_some hfind
      have hagree : view other = view second := by simpa using List.find?_some hfind
      rw [honly other hother hagree]

theorem concat_prefix_cons_iff {before : List α} {x y : α} {ys : List α} :
    before ++ [x] <+: y :: ys ↔
      (before = [] ∧ x = y) ∨ ∃ rest, before = y :: rest ∧ rest ++ [x] <+: ys := by
  cases before with
  | nil => simp
  | cons z before =>
    rw [List.cons_append, List.cons_prefix_cons]
    simp [and_assoc, eq_comm]

theorem firstClash_eq_some_iff [DecidableEq β] {earlier : List α} {first second : α} :
    firstClash view earlier elements = some (first, second) ↔
      ∃ before, before ++ [second] <+: elements ∧ firstClash view earlier before = none ∧
        (earlier ++ before).find? (view · = view second) = some first := by
  induction elements generalizing earlier with
  | nil => simp [firstClash]
  | cons x elements ih =>
    rw [firstClash]
    cases hfind : earlier.find? (view · = view x) with
    | some rival =>
      constructor
      · intro h
        cases h
        exact ⟨[], by simp, rfl, by simpa using hfind⟩
      · rintro ⟨before, hprefix, hnone, hfirst⟩
        rcases concat_prefix_cons_iff.1 hprefix with ⟨rfl, rfl⟩ | ⟨rest, rfl, -⟩
        · rw [List.append_nil, hfind] at hfirst
          cases hfirst
          rfl
        · rw [firstClash, hfind] at hnone
          cases hnone
    | none =>
      have hstep : ∀ rest, firstClash view earlier (x :: rest) = firstClash view (earlier ++ [x]) rest := by
        intro rest
        rw [firstClash, hfind]
      change firstClash view (earlier ++ [x]) elements = _ ↔ _
      rw [ih]
      constructor
      · rintro ⟨rest, hprefix, hnone, hfirst⟩
        refine ⟨x :: rest, concat_prefix_cons_iff.2 (.inr ⟨rest, rfl, hprefix⟩), ?_, ?_⟩
        · rw [hstep, hnone]
        · simpa using hfirst
      · rintro ⟨before, hprefix, hnone, hfirst⟩
        rcases concat_prefix_cons_iff.1 hprefix with ⟨rfl, rfl⟩ | ⟨rest, rfl, hrest⟩
        · rw [List.append_nil, hfind] at hfirst
          cases hfirst
        · refine ⟨rest, hrest, ?_, ?_⟩
          · rw [← hstep, hnone]
          · simpa using hfirst

theorem firstClash_nil_eq_none_iff [DecidableEq β] :
    firstClash view [] elements = none ↔ (elements.map view).Nodup := by
  rw [firstClash_eq_none_iff]
  simp

theorem firstClash_iff [DecidableEq β] {first second : α} :
    firstClash view [] elements = some (first, second) ↔ FirstClash view elements first second := by
  rw [firstClash_eq_some_iff]
  refine exists_congr fun before => and_congr_right fun _ => ?_
  rw [firstClash_nil_eq_none_iff, List.nil_append]
  exact and_congr_right fun hnodup => find?_eq_some_iff_onlyRival hnodup

end Clash

theorem checkKeys_fits_iff {block : Descriptor} : checkKeys block = .ok () ↔ FitKeys block := by
  have hkeys : FitKeys block ↔ ((block.attributeList.map (·.1)).map Php.identifier).Nodup := by
    rw [List.map_map]
    rfl
  rw [hkeys, ← firstClash_nil_eq_none_iff]
  unfold checkKeys
  cases firstClash Php.identifier [] (block.attributeList.map (·.1)) with
  | none => simp
  | some clash => simp

theorem checkKeys_eq_error_iff {block : Descriptor} {failure : Failure} :
    checkKeys block = .error failure ↔
      ∃ first second, FirstClash Php.identifier (block.attributeList.map (·.1)) first second ∧
        failure = .keyCollision block.blockName (Php.identifier second) first second := by
  simp only [← firstClash_iff]
  unfold checkKeys
  cases firstClash Php.identifier [] (block.attributeList.map (·.1)) with
  | none => simp
  | some clash => simp [Prod.ext_iff, and_assoc, eq_comm]

/-- A pass that looks at every block fails at the first block that fails. -/
theorem checkEach_eq_error_iff {blocks : List Descriptor} {failure : Failure} :
    checkEach blocks = .error failure ↔
      ∃ before block, before ++ [block] <+: blocks ∧
        (∀ other ∈ before, checkName other = .ok () ∧ checkKeys other = .ok ()) ∧
        (checkName block = .error failure ∨
          (checkName block = .ok () ∧ checkKeys block = .error failure)) := by
  induction blocks with
  | nil => simp [checkEach]
  | cons block blocks ih =>
    rw [checkEach, check_bind_eq_error_iff, check_bind_eq_error_iff, ih]
    constructor
    · rintro (hname | ⟨hname, hkeys | ⟨hkeys, before, other, hprefix, hbefore, hother⟩⟩)
      · exact ⟨[], block, by simp, by simp, .inl hname⟩
      · exact ⟨[], block, by simp, by simp, .inr ⟨hname, hkeys⟩⟩
      · refine ⟨block :: before, other, concat_prefix_cons_iff.2 (.inr ⟨before, rfl, hprefix⟩), ?_, hother⟩
        exact List.forall_mem_cons.2 ⟨⟨hname, hkeys⟩, hbefore⟩
    · rintro ⟨before, other, hprefix, hbefore, hother⟩
      rcases concat_prefix_cons_iff.1 hprefix with ⟨rfl, rfl⟩ | ⟨rest, rfl, hrest⟩
      · rcases hother with hname | ⟨hname, hkeys⟩
        · exact .inl hname
        · exact .inr ⟨hname, .inl hkeys⟩
      · obtain ⟨⟨hname, hkeys⟩, htail⟩ := List.forall_mem_cons.1 hbefore
        exact .inr ⟨hname, .inr ⟨hkeys, rest, other, hrest, htail, hother⟩⟩

theorem checkBlockNames_fits_iff {blocks : List Descriptor} :
    checkBlockNames blocks = .ok () ↔ (blocks.map Descriptor.blockName).Nodup := by
  rw [← firstClash_nil_eq_none_iff]
  unfold checkBlockNames
  cases firstClash Descriptor.blockName [] blocks with
  | none => simp
  | some clash => simp

theorem checkBlockNames_eq_error_iff {blocks : List Descriptor} {failure : Failure} :
    checkBlockNames blocks = .error failure ↔
      ∃ first second, FirstClash Descriptor.blockName blocks first second ∧
        failure = .duplicateBlock second.blockName := by
  simp only [← firstClash_iff]
  unfold checkBlockNames
  cases firstClash Descriptor.blockName [] blocks with
  | none => simp
  | some clash => simp [Prod.ext_iff, and_assoc, eq_comm]

theorem checkTypesAfter_eq_ok_iff {earlier blocks : List Descriptor} :
    checkTypesAfter earlier blocks = .ok () ↔
      (∀ block ∈ blocks, checkTypeName block = .ok ()) ∧
        firstClash Descriptor.typeName earlier blocks = none := by
  induction blocks generalizing earlier with
  | nil => simp [checkTypesAfter, firstClash]
  | cons block blocks ih =>
    rw [checkTypesAfter, firstClash, check_bind_eq_ok_iff, List.forall_mem_cons]
    cases earlier.find? (·.typeName = block.typeName) with
    | some rival => simp
    | none =>
      change _ ∧ checkTypesAfter (earlier ++ [block]) blocks = .ok () ↔ _
      rw [ih, and_assoc]

theorem checkTypesAfter_eq_error_iff {earlier blocks : List Descriptor} {failure : Failure} :
    checkTypesAfter earlier blocks = .error failure ↔
      ∃ before block, before ++ [block] <+: blocks ∧
        checkTypesAfter earlier before = .ok () ∧
        (checkTypeName block = .error failure ∨
          (checkTypeName block = .ok () ∧ ∃ first,
            (earlier ++ before).find? (·.typeName = block.typeName) = some first ∧
              failure = .duplicateType block.typeName first.blockName block.blockName)) := by
  induction blocks generalizing earlier with
  | nil => simp [checkTypesAfter]
  | cons block blocks ih =>
    rw [checkTypesAfter, check_bind_eq_error_iff]
    cases hfind : earlier.find? (·.typeName = block.typeName) with
    | some rival =>
      constructor
      · intro h
        refine ⟨[], block, by simp, rfl, h.imp_right fun ⟨hok, herror⟩ => ⟨hok, rival, ?_, ?_⟩⟩
        · simpa using hfind
        · cases herror
          rfl
      · rintro ⟨before, other, hprefix, hbefore, hother⟩
        rcases concat_prefix_cons_iff.1 hprefix with ⟨rfl, rfl⟩ | ⟨rest, rfl, -⟩
        · refine hother.imp_right fun ⟨hok, first, hfirst, hfailure⟩ => ⟨hok, ?_⟩
          rw [List.append_nil, hfind] at hfirst
          cases hfirst
          rw [hfailure]
        · rw [checkTypesAfter, check_bind_eq_ok_iff, hfind] at hbefore
          cases hbefore.2
    | none =>
      have hstep : ∀ rest, checkTypesAfter earlier (block :: rest) = .ok () ↔
          checkTypeName block = .ok () ∧ checkTypesAfter (earlier ++ [block]) rest = .ok () := by
        intro rest
        rw [checkTypesAfter, check_bind_eq_ok_iff, hfind]
      change _ ∨ (_ ∧ checkTypesAfter (earlier ++ [block]) blocks = .error failure) ↔ _
      rw [ih]
      constructor
      · rintro (herror | ⟨hok, rest, other, hprefix, hrest, hother⟩)
        · exact ⟨[], block, by simp, rfl, .inl herror⟩
        · refine ⟨block :: rest, other, concat_prefix_cons_iff.2 (.inr ⟨rest, rfl, hprefix⟩),
            (hstep rest).2 ⟨hok, hrest⟩, ?_⟩
          simpa using hother
      · rintro ⟨before, other, hprefix, hbefore, hother⟩
        rcases concat_prefix_cons_iff.1 hprefix with ⟨rfl, rfl⟩ | ⟨rest, rfl, hrest⟩
        · rcases hother with herror | ⟨-, first, hfirst, -⟩
          · exact .inl herror
          · rw [List.append_nil, hfind] at hfirst
            cases hfirst
        · obtain ⟨hok, hlater⟩ := (hstep rest).1 hbefore
          exact .inr ⟨hok, rest, other, hrest, hlater, by simpa using hother⟩

theorem checkTypes_fits_iff {blocks : List Descriptor} :
    checkTypes blocks = .ok () ↔
      (∀ block ∈ blocks, FitType block.typeName) ∧ (blocks.map Descriptor.typeName).Nodup := by
  rw [checkTypes, checkTypesAfter_eq_ok_iff, firstClash_nil_eq_none_iff]
  simp only [checkTypeName_fits_iff]

theorem checkTypes_eq_error_iff {blocks : List Descriptor} {failure : Failure} :
    checkTypes blocks = .error failure ↔
      ∃ before block, before ++ [block] <+: blocks ∧
        (∀ other ∈ before, FitType other.typeName) ∧ (before.map Descriptor.typeName).Nodup ∧
        (checkTypeName block = .error failure ∨
          (FitType block.typeName ∧ ∃ first, OnlyRival Descriptor.typeName before first block ∧
            failure = .duplicateType block.typeName first.blockName block.blockName)) := by
  rw [checkTypes, checkTypesAfter_eq_error_iff]
  refine exists_congr fun before => exists_congr fun block => and_congr_right fun _ => ?_
  rw [← checkTypes, checkTypes_fits_iff, checkTypeName_fits_iff, List.nil_append, and_assoc]
  refine and_congr_right fun _ => and_congr_right fun hnodup => or_congr_right ?_
  refine and_congr_right fun _ => exists_congr fun first => and_congr_left fun _ => ?_
  exact find?_eq_some_iff_onlyRival hnodup

theorem check_eq_ok_iff_acceptable {blocks : List Descriptor} :
    check blocks = .ok () ↔ Acceptable blocks := by
  rw [check_eq_ok_iff, checkEach_eq_ok_iff, checkBlockNames_fits_iff, checkTypes_fits_iff]
  simp only [checkName_fits_iff, checkKeys_fits_iff]
  constructor
  · rintro ⟨heach, hnames, htypes, hdistinct⟩
    exact ⟨fun block h => (heach block h).1, fun block h => (heach block h).2, hnames, htypes, hdistinct⟩
  · intro h
    exact ⟨fun block hblock => ⟨h.names block hblock, h.keys block hblock⟩, h.distinctNames, h.types,
      h.distinctTypes⟩

theorem check_eq_error_iff_firstBreach {blocks : List Descriptor} {failure : Failure} :
    check blocks = .error failure ↔ FirstBreach blocks failure := by
  have heach : checkEach blocks = .ok () ↔
      ∀ block ∈ blocks, FitName block.blockName ∧ FitKeys block := by
    rw [checkEach_eq_ok_iff]
    simp only [checkName_fits_iff, checkKeys_fits_iff]
  rw [check, check_bind_eq_error_iff, check_bind_eq_error_iff, heach, checkBlockNames_fits_iff,
    checkEach_eq_error_iff, checkBlockNames_eq_error_iff, checkTypes_eq_error_iff]
  simp only [checkName_fits_iff, checkKeys_fits_iff, checkName_eq_error_iff, checkKeys_eq_error_iff,
    checkTypeName_eq_error_iff]
  constructor
  · rintro (⟨before, block, hprefix, hbefore, hbreach⟩ | ⟨hall, hnames | ⟨hnames, htypes⟩⟩)
    · rcases hbreach with ⟨hname, rfl⟩ | ⟨hname, first, second, hclash, rfl⟩
      · exact .name hprefix hbefore hname
      · exact .keys hprefix hbefore hname hclash
    · obtain ⟨first, second, hclash, rfl⟩ := hnames
      exact .blockName hall hclash
    · obtain ⟨before, block, hprefix, hbefore, hnodup, hbreach⟩ := htypes
      rcases hbreach with (⟨hcapitals, rfl⟩ | ⟨hcapitals, hslash, rfl⟩) | ⟨hfit, first, hrival, rfl⟩
      · exact .capitals hall hnames hprefix hbefore hnodup hcapitals
      · exact .slash hall hnames hprefix hbefore hnodup hcapitals hslash
      · have hfits : ∀ other ∈ before ++ [block], FitType other.typeName := by
          simpa [or_imp, forall_and] using ⟨hbefore, hfit⟩
        exact .typeName hall hnames hprefix hfits hnodup hrival
  · intro hbreach
    cases hbreach with
    | name hprefix hbefore hname => exact .inl ⟨_, _, hprefix, hbefore, .inl ⟨hname, rfl⟩⟩
    | keys hprefix hbefore hname hclash =>
      exact .inl ⟨_, _, hprefix, hbefore, .inr ⟨hname, _, _, hclash, rfl⟩⟩
    | blockName hall hclash => exact .inr ⟨hall, .inl ⟨_, _, hclash, rfl⟩⟩
    | capitals hall hnames hprefix hbefore hnodup hcapitals =>
      exact .inr ⟨hall, .inr ⟨hnames, _, _, hprefix, hbefore, hnodup, .inl (.inl ⟨hcapitals, rfl⟩)⟩⟩
    | slash hall hnames hprefix hbefore hnodup hcapitals hslash =>
      exact .inr ⟨hall, .inr ⟨hnames, _, _, hprefix, hbefore, hnodup,
        .inl (.inr ⟨hcapitals, hslash, rfl⟩)⟩⟩
    | typeName hall hnames hprefix hfits hnodup hrival =>
      have hbefore := fun other hother => hfits other (List.mem_append_left _ hother)
      have hfit := hfits _ (List.mem_append_right _ (List.mem_singleton_self _))
      exact .inr ⟨hall, .inr ⟨hnames, _, _, hprefix, hbefore, hnodup, .inr ⟨hfit, _, hrival, rfl⟩⟩⟩

theorem acceptable_of_perm {blocks others : List Descriptor} (hperm : blocks.Perm others)
    (h : Acceptable blocks) : Acceptable others where
  names block hblock := h.names block (hperm.mem_iff.2 hblock)
  keys block hblock := h.keys block (hperm.mem_iff.2 hblock)
  distinctNames := (hperm.map _).nodup_iff.1 h.distinctNames
  types block hblock := h.types block (hperm.mem_iff.2 hblock)
  distinctTypes := (hperm.map _).nodup_iff.1 h.distinctTypes

end ThemeBlocks.Block

namespace ThemeBlocks.Registry

open Block

variable {blocks : List Descriptor}

theorem ofBlocks_eq_ok_iff {registry : Registry} :
    ofBlocks blocks = .ok registry ↔ registry.blocks = blocks := by
  constructor
  · intro h
    unfold ofBlocks at h
    split at h
    · cases h
      rfl
    · cases h
  · rintro rfl
    unfold ofBlocks
    split
    · rfl
    · next failure hfailure =>
      rw [registry.accepted] at hfailure
      cases hfailure

theorem ofBlocks_eq_error_iff {failure : Failure} :
    ofBlocks blocks = .error failure ↔ check blocks = .error failure := by
  unfold ofBlocks
  split
  · next hok => simp [hok]
  · next other hother => simp [hother]

theorem exists_ofBlocks_iff :
    (∃ registry, ofBlocks blocks = .ok registry) ↔ Acceptable blocks := by
  rw [← check_eq_ok_iff_acceptable]
  simp only [ofBlocks_eq_ok_iff]
  constructor
  · rintro ⟨registry, rfl⟩
    exact registry.accepted
  · intro haccepted
    exact ⟨⟨blocks, haccepted⟩, rfl⟩

/-- A registry comes of a list exactly if the list keeps the rules, and holds that list; a list that
breaks one is refused for its first breach. Whether there is a registry does not depend on the order
of the list. -/
theorem ofBlocks_verdict (blocks : List Descriptor) :
    ((∃ registry, ofBlocks blocks = .ok registry ∧ registry.blocks = blocks) ↔ Acceptable blocks) ∧
      (∀ failure, ofBlocks blocks = .error failure ↔ FirstBreach blocks failure) ∧
      (¬ Acceptable blocks → ∃ failure, ofBlocks blocks = .error failure) ∧
      ∀ others, blocks.Perm others →
        ((∃ registry, ofBlocks blocks = .ok registry) ↔ ∃ registry, ofBlocks others = .ok registry) := by
  refine ⟨?_, fun failure => ?_, fun hrefused => ?_, fun others hperm => ?_⟩
  · rw [← exists_ofBlocks_iff]
    exact exists_congr fun registry => and_iff_left_of_imp ofBlocks_eq_ok_iff.1
  · rw [ofBlocks_eq_error_iff, check_eq_error_iff_firstBreach]
  · cases hresult : ofBlocks blocks with
    | ok registry => exact absurd (exists_ofBlocks_iff.1 ⟨registry, hresult⟩) hrefused
    | error failure => exact ⟨failure, rfl⟩
  · rw [exists_ofBlocks_iff, exists_ofBlocks_iff]
    exact ⟨acceptable_of_perm hperm, acceptable_of_perm hperm.symm⟩

end ThemeBlocks.Registry

import ThemeBlocks.Proofs.Files.Frame

/-! The directories around a joined path. A path of a directory around another path is a beginning of that
path; so, of the directories around a path that is joined to a base, each one either lies on the way to
the base or below it. -/

namespace ThemeBlocks.Files

namespace Path

variable {path parent base around : Path}

theorem intercalate_segments (chars : List Char) :
    "/".intercalate ((Text.splitAtChar '/' chars).map .ofList) = .ofList chars := by
  rw [← String.toList_inj, String.toList_intercalate, List.map_map, String.toList_ofList]
  simp only [Function.comp_def, String.toList_ofList, List.map_id']
  exact Text.intercalate_splitAtChar '/' chars

theorem text_eq_intercalate (path : Path) : path.text = "/".intercalate path.segments := by
  rw [segments, intercalate_segments, String.ofList_toList]

theorem dropVoid_suffix (segments : List String) : dropVoid segments <:+ segments := by
  induction segments with
  | nil => exact List.suffix_rfl
  | cons segment rest ih =>
    rw [dropVoid]
    split
    · exact ih.trans (List.suffix_cons segment rest)
    · exact List.suffix_rfl

theorem exists_kept {segments rest : List String} {last : String}
    (h : dropVoid segments.reverse = last :: rest) :
    ∃ others, others ≠ [] ∧ segments = (dropVoid rest).reverse ++ others := by
  obtain ⟨front, hfront⟩ := dropVoid_suffix segments.reverse
  obtain ⟨between, hbetween⟩ := dropVoid_suffix rest
  have hall : segments.reverse = front ++ last :: between ++ dropVoid rest := by
    rw [← hfront, h, List.append_assoc, List.cons_append, hbetween]
  refine ⟨(front ++ last :: between).reverse, by simp, ?_⟩
  rw [← List.reverse_append, ← hall, List.reverse_reverse]

theorem text_eq_of_dropVoid {chars : List Char} {rest : List String} {last : String} (start : String)
    (h : dropVoid ((Text.splitAtChar '/' chars).map .ofList).reverse = last :: rest) :
    dropVoid rest = [] ∨ ∃ tail, start ++ .ofList chars =
      start ++ "/".intercalate (dropVoid rest).reverse ++ "/" ++ tail := by
  obtain ⟨others, hothers, hall⟩ := exists_kept h
  refine or_iff_not_imp_left.2 fun hkept => ⟨"/".intercalate others, ?_⟩
  rw [← intercalate_segments chars, hall,
    String.intercalate_append_of_ne_nil (by simpa using hkept) hothers]
  simp only [String.append_assoc]

theorem text_of_isAbsolute (h : path.isAbsolute) :
    path.text = "/" ++ .ofList (path.text.toList.drop 1) := by
  obtain ⟨rest, hrest⟩ : ∃ rest, path.text.toList = '/' :: rest := by
    simpa [isAbsolute, List.head?_eq_some_iff] using h
  rw [← String.toList_inj, hrest]
  simp

theorem text_of_dot (h : path.segments.head? = some ".") :
    path.text = "." ∨ ∃ rest, path.text = "." ++ "/" ++ rest := by
  obtain ⟨others, hothers⟩ := List.head?_eq_some_iff.1 h
  rw [text_eq_intercalate path, hothers]
  by_cases hnone : others = []
  · subst hnone
    exact .inl String.intercalate_singleton
  · refine .inr ⟨"/".intercalate others, ?_⟩
    rw [← List.singleton_append, String.intercalate_append_of_ne_nil (by simp) hnone,
      String.intercalate_singleton]

def opening (path : Path) : String :=
  if path.isAbsolute then "/" else if path.segments.head? = some "." then "." else ""

theorem text_eq_opening (path : Path) :
    path.text = path.opening ++ .ofList (path.text.toList.drop path.opening.length) := by
  unfold opening
  split
  · next habsolute => exact text_of_isAbsolute habsolute
  · split
    · next hdot =>
      rw [← String.toList_inj, show (".").length = 1 from rfl]
      rcases text_of_dot hdot with hpath | ⟨rest, hpath⟩ <;> simp [hpath]
    · simp

theorem isAbsolute_append {front : String} (rest : String) (h : (⟨front⟩ : Path).isAbsolute) :
    (⟨front ++ rest⟩ : Path).isAbsolute := by
  obtain ⟨tail, htail⟩ : ∃ tail, front.toList = '/' :: tail := by
    simpa [isAbsolute, List.head?_eq_some_iff] using h
  simp [isAbsolute, htail]

theorem isAbsolute_opening (path : Path) : (⟨path.opening⟩ : Path).isAbsolute = path.isAbsolute := by
  unfold opening
  split
  · next habsolute => rw [habsolute]; rfl
  · next hrelative =>
    rw [Bool.not_eq_true] at hrelative
    rw [hrelative]
    split <;> rfl

/-- Without its last component a path is nothing, or its opening, or ends before a slash. -/
theorem parent?_cases (h : path.parent? = some parent) :
    (parent = ⟨""⟩ ∧ path.isAbsolute = false) ∨ parent = ⟨path.opening⟩ ∨
      ∃ rest, path.text = parent.text ++ "/" ++ rest ∧ parent.isAbsolute = path.isAbsolute := by
  have hpath := text_eq_opening path
  unfold parent? at h
  dsimp only at h
  split at h
  · next last rest hbody =>
    obtain rfl : ⟨path.opening ++ "/".intercalate (dropVoid rest).reverse⟩ = parent := Option.some.inj h
    refine .inr ?_
    rcases text_eq_of_dropVoid path.opening hbody with hnone | ⟨tail, htail⟩
    · exact .inl (by simp [hnone])
    · -- A slash at the start of the one text is at the start of the other, since both begin alike.
      have hbeginning := hpath.trans htail
      refine .inr ⟨tail, hbeginning, ?_⟩
      cases habsolute : path.isAbsolute with
      | true =>
        rw [← isAbsolute_opening] at habsolute
        exact isAbsolute_append _ habsolute
      | false =>
        obtain ⟨text⟩ := path
        refine Bool.eq_false_iff.2 fun hparent => ?_
        have hwhole := isAbsolute_append ("/" ++ tail) hparent
        rw [← String.append_assoc, ← hbeginning, habsolute] at hwhole
        cases hwhole
  · obtain ⟨hdot, hparent⟩ : path.opening = "." ∧ some ⟨""⟩ = some parent := by
      simpa [opening] using h
    refine .inl ⟨(Option.some.inj hparent).symm, ?_⟩
    rw [← isAbsolute_opening, hdot]
    rfl

theorem isAbsolute_parent (h : path.parent? = some parent) : parent.isAbsolute = path.isAbsolute := by
  rcases parent?_cases h with ⟨rfl, hrelative⟩ | rfl | ⟨rest, -, hsame⟩
  · rw [hrelative]
    rfl
  · exact isAbsolute_opening path
  · exact hsame

def start (path : Path) : List Component :=
  if path.isAbsolute then [.root] else if path.segments.head? = some "." then [.here] else []

theorem components_eq (path : Path) : path.components = path.start ++ path.plainNames.map componentOf := by
  rw [components, filterMap_componentOf?]
  rfl

theorem head?_segments_slash (front rest : String) :
    (⟨front ++ "/" ++ rest⟩ : Path).segments.head? = (⟨front⟩ : Path).segments.head? := by
  have hne : (⟨front⟩ : Path).segments ≠ [] := by
    simpa [segments] using Text.splitAtChar_ne_nil '/' front.toList
  rw [segments_slash, List.head?_append_of_ne_nil _ hne]

theorem start_opening (path : Path) : (⟨path.opening⟩ : Path).start = path.start := by
  unfold start
  rw [isAbsolute_opening]
  unfold opening
  split
  · rfl
  · split <;> rfl

theorem filter_segments_parent (h : path.parent? = some parent) {keep : String → Bool}
    (hkeep : keep "" = false) : parent.segments.filter keep <+: path.segments.filter keep := by
  rcases parent?_cases h with ⟨rfl, -⟩ | rfl | ⟨rest, hpath, -⟩
  · simp [segments_empty, hkeep]
  · unfold opening
    split
    · simp [segments, Text.splitAtChar, hkeep]
    · split
      · next hdot =>
        obtain ⟨others, hothers⟩ := List.head?_eq_some_iff.1 hdot
        rw [hothers]
        exact (List.prefix_append ["."] others).filter keep
      · simp [segments_empty, hkeep]
  · obtain ⟨text⟩ := path
    obtain rfl : text = parent.text ++ "/" ++ rest := hpath
    rw [segments_slash, List.filter_append]
    exact List.prefix_append _ _

theorem components_parent (h : path.parent? = some parent) : parent.components <+: path.components := by
  have hnames : parent.plainNames.map componentOf <+: path.plainNames.map componentOf :=
    (filter_segments_parent h (by rfl)).map componentOf
  have hsame : parent = ⟨""⟩ ∨ parent.start = path.start := by
    rcases parent?_cases h with ⟨hnone, -⟩ | rfl | ⟨rest, hpath, habsolute⟩
    · exact .inl hnone
    · exact .inr (start_opening path)
    · obtain ⟨text⟩ := path
      obtain rfl : text = parent.text ++ "/" ++ rest := hpath
      rw [start, start, habsolute, head?_segments_slash]
      exact .inr rfl
  rw [components_eq, components_eq]
  rcases hsame with rfl | hsame
  · exact List.nil_prefix
  · rw [hsame]
    exact (List.prefix_append_right_inj _).2 hnames

theorem up_not_mem_map {names : List String} (h : ".." ∉ names) :
    Component.up ∉ names.map componentOf := by
  refine fun hmem => h ?_
  obtain ⟨name, hname, hup⟩ := List.mem_map.1 hmem
  unfold componentOf at hup
  split at hup
  · next heq => exact heq ▸ hname
  · cases hup

theorem up_not_mem_plainNames (h : ".." ∉ path.segments) : ".." ∉ path.plainNames :=
  fun hmem => h (List.mem_of_mem_filter hmem)

theorem up_not_mem_components (h : ".." ∉ path.segments) : Component.up ∉ path.components := by
  rw [components_eq, List.mem_append]
  refine not_or.2 ⟨?_, up_not_mem_map (up_not_mem_plainNames h)⟩
  unfold start
  split
  · simp
  · split <;> simp

theorem start_join (hne : base.text ≠ "") (h : path.isAbsolute = false) :
    (base.join path).start = base.start := by
  have hhead : (base.join path).segments.head? = base.segments.head? := by
    obtain ⟨text⟩ := base
    unfold join
    rw [if_neg (by simp [h]), if_neg (by simpa using hne)]
    split
    · next hlast =>
      obtain ⟨front, hfront⟩ := List.getLast?_eq_some_iff.1 hlast
      obtain rfl : text = .ofList front ++ "/" := by
        rw [← String.toList_inj]
        simpa using hfront
      have hbase := head?_segments_slash (.ofList front) ""
      rw [String.append_empty] at hbase
      rw [head?_segments_slash, hbase]
    · exact head?_segments_slash text path.text
  rw [start, start, isAbsolute_join h, hhead]

/-- The path begins like the base, and never goes up behind it. -/
def IsBelow (base path : Path) : Prop :=
  base.components <+: path.components ∧ Component.up ∉ path.components.drop base.components.length

theorem exists_components_join (h : path.isAbsolute = false) (hup : ".." ∉ path.segments) :
    ∃ more, (base.join path).components = base.components ++ more ∧ Component.up ∉ more := by
  by_cases hempty : base.text = ""
  · obtain ⟨text⟩ := base
    subst hempty
    refine ⟨path.components, ?_, up_not_mem_components hup⟩
    rw [join, if_neg (by simp [h]), if_pos (by rfl)]
    rfl
  · refine ⟨path.plainNames.map componentOf, ?_, up_not_mem_map (up_not_mem_plainNames hup)⟩
    rw [components_eq, components_eq, start_join hempty h, plainNames_join h, List.map_append,
      List.append_assoc]

theorem isBelow_join (h : path.isAbsolute = false) (hup : ".." ∉ path.segments) :
    base.IsBelow (base.join path) := by
  obtain ⟨more, hmore, hnone⟩ := exists_components_join h hup
  rw [IsBelow, hmore, List.drop_left]
  exact ⟨List.prefix_append _ _, hnone⟩

end Path

theorem isAbsolute_of_encloses {path around : Path} (h : Encloses around path) :
    around.isAbsolute = path.isAbsolute := by
  induction h with
  | parent hparent => exact Path.isAbsolute_parent hparent
  | around hparent _ ih => exact ih.trans (Path.isAbsolute_parent hparent)

theorem components_of_encloses {path around : Path} (h : Encloses around path) :
    around.components <+: path.components := by
  induction h with
  | parent hparent => exact Path.components_parent hparent
  | around hparent _ ih => exact ih.trans (Path.components_parent hparent)

theorem filter_segments_of_encloses {path around : Path} (h : Encloses around path)
    {keep : String → Bool} (hkeep : keep "" = false) :
    around.segments.filter keep <+: path.segments.filter keep := by
  induction h with
  | parent hparent => exact Path.filter_segments_parent hparent hkeep
  | around hparent _ ih => exact ih.trans (Path.filter_segments_parent hparent hkeep)

namespace Tree

variable {tree : Tree} {current place location : Location} {base path around : Path}

def Passes (tree : Tree) (current : Location) (path : Path) (location : Location) : Prop :=
  ∃ steps, steps <+: nameSteps path ∧ tree.walk (startOf current path) steps = .ok location

/-- The place is the one that the names of the path lead to, or lies below it. -/
def IsInside (tree : Tree) (current : Location) (path : Path) (location : Location) : Prop :=
  ∃ place, tree.walk (startOf current path) (nameSteps path) = .ok place ∧ place <+: location

theorem prefix_of_advance {step : Step} (hstep : step ≠ .up) (h : tree.advance place step = .ok location) :
    place <+: location := by
  cases step with
  | stay => exact eq_of_advance_stay h ▸ List.prefix_rfl
  | up => exact absurd rfl hstep
  | down name => exact eq_of_advance_down h ▸ List.prefix_append _ _

theorem prefix_of_walk {steps : List Step} (hup : Step.up ∉ steps)
    (h : tree.walk place steps = .ok location) : place <+: location := by
  induction steps generalizing place with
  | nil =>
    cases h
    exact List.prefix_rfl
  | cons step steps ih =>
    obtain ⟨hstep, hsteps⟩ := not_or.1 (mt List.mem_cons.2 hup)
    rw [walk_cons] at h
    obtain ⟨next, hnext, hrest⟩ := exists_ok_of_bind h
    exact (prefix_of_advance (Ne.symm hstep) hnext).trans (ih hsteps hrest)

theorem up_not_mem_nameSteps (h : ".." ∉ path.segments) : Step.up ∉ nameSteps path := by
  refine fun hmem => h ?_
  obtain ⟨name, hname, hstep⟩ := List.mem_map.1 hmem
  unfold stepOf at hstep
  split at hstep
  · cases hstep
  · exact List.mem_of_mem_filter hname
  · cases hstep

theorem isInside_of_locate_join (h : path.isAbsolute = false) (hup : ".." ∉ path.segments)
    (hlocate : tree.locate current (base.join path) = .ok location) :
    IsInside tree current base location := by
  obtain ⟨place, hplace, rfl⟩ := exists_base_of_locate_join h hup hlocate
  exact ⟨place, hplace, List.prefix_append _ _⟩

theorem passes_or_isInside (h : path.isAbsolute = false) (hup : ".." ∉ path.segments)
    (haround : Encloses around (base.join path)) (hlocate : tree.locate current around = .ok location) :
    Passes tree current base location ∨ IsInside tree current base location := by
  have hwalk := walk_nameSteps_of_locate hlocate
  have hstart : startOf current around = startOf current base := by
    rw [startOf, startOf, isAbsolute_of_encloses haround, Path.isAbsolute_join h]
  have hsteps : nameSteps around <+: nameSteps base ++ nameSteps path := by
    rw [← nameSteps_join h]
    exact (filter_segments_of_encloses haround (by rfl)).map stepOf
  rw [hstart] at hwalk
  -- The steps to the base and those to the directory both begin the joined path's, so they are comparable.
  rcases List.prefix_or_prefix_of_prefix hsteps (List.prefix_append _ _) with hfront | ⟨more, hmore⟩
  · exact .inl ⟨nameSteps around, hfront, hwalk⟩
  · rw [← hmore, List.prefix_append_right_inj] at hsteps
    rw [← hmore, walk_append] at hwalk
    obtain ⟨place, hplace, hrest⟩ := exists_ok_of_bind hwalk
    exact .inr ⟨place, hplace,
      prefix_of_walk (fun hmem => up_not_mem_nameSteps hup (hsteps.subset hmem)) hrest⟩

/-- All that changes is inside the base, save for new directories that the base's path leads through. -/
def ChangesInside (current : Location) (base : Path) (before after : Tree) : Prop :=
  ∀ location, after.node? location ≠ before.node? location →
    IsInside after current base location ∨
      (before.node? location = none ∧ after.node? location = some .directory ∧
        Passes after current base location)

theorem changesInside_of_touched {paths : List Path} {before after : Tree}
    (hrelative : ∀ path ∈ paths, path.isAbsolute = false)
    (hup : ∀ path ∈ paths, ".." ∉ path.segments)
    (h : Touched current (paths.map base.join) before after) :
    ChangesInside current base before after := by
  intro location hchanged
  rcases h.changed location hchanged with
    ⟨text, -, target, htarget, hlocate⟩ | ⟨hfree, hmade, target, htarget, around, haround, hlocate⟩
  · obtain ⟨path, hpath, rfl⟩ := List.mem_map.1 htarget
    exact .inl (isInside_of_locate_join (hrelative path hpath) (hup path hpath) hlocate)
  · obtain ⟨path, hpath, rfl⟩ := List.mem_map.1 htarget
    rcases passes_or_isInside (hrelative path hpath) (hup path hpath) haround hlocate with
      hpasses | hinside
    · exact .inr ⟨hfree, hmade, hpasses⟩
    · exact .inl hinside

end Tree

end ThemeBlocks.Files

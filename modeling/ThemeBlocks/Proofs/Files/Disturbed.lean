import ThemeBlocks.Proofs.Files.Enclosing

/-! What an operation that fails may have done to a tree. A file that was to be written can hold any text
by then, or be gone, and some of the directories around it can be there; all else is as it was. So a file
below a base is safe from what happens to other files there, unless its path begins one of theirs. -/

namespace ThemeBlocks.Files.Tree

variable {current location other target : Location} {path : Path} {tree before middle after : Tree}

def erase (tree : Tree) (location : Location) : Tree :=
  ⟨tree.entries.filter (·.1 ≠ location)⟩

theorem node?_erase_of_ne (h : other ≠ location) (tree : Tree) :
    (tree.erase location).node? other = tree.node? other := by
  have hkept (entry : Location × Node) :
      (entry.1 ≠ location ∧ entry.1 = other) ↔ entry.1 = other :=
    and_iff_right_of_imp fun hentry => hentry ▸ h
  simp only [node?, erase, List.find?_filter, decide_eq_true_eq, hkept]

/-- What a write that fails makes of its file: some text is left, or nothing. A path that cannot be written
to comes to no harm. -/
def spoil (tree : Tree) (current : Location) (path : Path) (left : Option String) : Tree :=
  match tree.targetOf current path .isDirectory with
  | .error _ => tree
  | .ok target =>
    if tree.node? target = some .directory then tree
    else
      match left with
      | none => tree.erase target
      | some text => tree.insert target (.file text)

/-- Makes the directories on the way to a path, but for some of the innermost ones. -/
def makeOuterDirectories (tree : Tree) (current : Location) (path : Path) (unmade : Nat) : Tree :=
  (ensureChain tree current ((chainOf (path.text.length + 1) path).drop unmade)).2

theorem spoil_spec (tree : Tree) (current : Location) (path : Path) (left : Option String) :
    KeepsDirectories tree (tree.spoil current path left) ∧
      ∀ location, (tree.spoil current path left).node? location ≠ tree.node? location →
        tree.locate current path = .ok location := by
  unfold spoil
  split
  · exact ⟨.refl tree, fun _ h => absurd rfl h⟩
  · next target htarget =>
    split
    · exact ⟨.refl tree, fun _ h => absurd rfl h⟩
    · next hnode =>
      cases left with
      | none =>
        refine ⟨fun location hlocation => ?_, fun location hchanged => ?_⟩
        · have hne : location ≠ target := by
            rintro rfl
            exact hnode hlocation
          exact (node?_erase_of_ne hne tree).trans hlocation
        · obtain rfl : location = target := by
            by_contra hne
            exact hchanged (node?_erase_of_ne hne tree)
          exact locate_of_targetOf htarget
      | some text =>
        refine ⟨keepsDirectories_insert hnode _, fun location hchanged => ?_⟩
        obtain rfl : location = target := by
          by_contra hne
          exact hchanged (node?_insert_of_ne hne tree _)
        exact locate_of_targetOf htarget

/-- Apart from what the paths lead to, whatever that has become, and from new directories around them, all
is as it was. -/
structure Disturbed (current : Location) (paths : List Path) (before after : Tree) : Prop where
  keeps : KeepsDirectories before after
  changed : ∀ location, after.node? location ≠ before.node? location →
    (∃ path ∈ paths, after.locate current path = .ok location) ∨
    (before.node? location = none ∧ after.node? location = some .directory ∧
      ∃ path ∈ paths, ∃ around, Encloses around path ∧ after.locate current around = .ok location)

theorem Touched.disturbed {paths : List Path} (h : Touched current paths before after) :
    Disturbed current paths before after := by
  refine ⟨h.keeps, fun location hchanged => (h.changed location hchanged).imp_left ?_⟩
  rintro ⟨text, -, hwritten⟩
  exact hwritten

namespace Disturbed

variable {paths : List Path}

theorem refl (tree : Tree) : Disturbed current paths tree tree :=
  (Touched.refl tree).disturbed

theorem trans (hfirst : Disturbed current paths before middle)
    (hsecond : Disturbed current paths middle after) : Disturbed current paths before after := by
  refine ⟨hfirst.keeps.trans hsecond.keeps, fun location hchanged => ?_⟩
  by_cases hlater : after.node? location = middle.node? location
  · rw [hlater] at hchanged ⊢
    rcases hfirst.changed location hchanged with ⟨path, hpath, hplace⟩ |
      ⟨hfree, hmade, path, hpath, around, haround, hplace⟩
    · exact .inl ⟨path, hpath, locate_of_keepsDirectories hsecond.keeps hplace⟩
    · exact .inr ⟨hfree, hmade, path, hpath, around, haround,
        locate_of_keepsDirectories hsecond.keeps hplace⟩
  · rcases hsecond.changed location hlater with hspoilt | ⟨hfree, hmade⟩
    · exact .inl hspoilt
    · by_cases hbefore : before.node? location = none
      · exact .inr ⟨hbefore, hmade⟩
      · -- An entry was taken away in between, which happens to nothing but what a path leads to.
        have hgone : middle.node? location ≠ before.node? location :=
          fun hsame => hbefore (hsame.symm.trans hfree)
        rcases hfirst.changed location hgone with ⟨path, hpath, hplace⟩ | ⟨hnone, -⟩
        · exact .inl ⟨path, hpath, locate_of_keepsDirectories hsecond.keeps hplace⟩
        · exact absurd hnone hbefore

theorem mono {more : List Path} (h : Disturbed current paths before after) (hmore : paths ⊆ more) :
    Disturbed current more before after := by
  refine ⟨h.keeps, fun location hchanged => ?_⟩
  rcases h.changed location hchanged with ⟨path, hpath, hplace⟩ | ⟨hfree, hmade, path, hpath, haround⟩
  · exact .inl ⟨path, hmore hpath, hplace⟩
  · exact .inr ⟨hfree, hmade, path, hmore hpath, haround⟩

theorem spoil {path : Path} (hpath : path ∈ paths) (tree : Tree) (left : Option String) :
    Disturbed current paths tree (tree.spoil current path left) := by
  obtain ⟨hkeeps, hchanged⟩ := spoil_spec tree current path left
  exact ⟨hkeeps, fun location hne =>
    .inl ⟨path, hpath, locate_of_keepsDirectories hkeeps (hchanged location hne)⟩⟩

theorem makeOuterDirectories {path around : Path} (hpath : path ∈ paths)
    (hparent : path.parent? = some around) (tree : Tree) (unmade : Nat) :
    Disturbed current paths tree (tree.makeOuterDirectories current around unmade) := by
  refine (touched_ensureChain hpath fun member hmember => ?_).disturbed
  rcases mem_chainOf (List.mem_of_mem_drop hmember) with rfl | henclosed
  · exact .parent hparent
  · exact .around hparent henclosed

end Disturbed

/-- The file that the path leads to is the one that it led to before, or there is none as before. Nor is
anything else there, unless the path goes up: it can lead back to a directory that it has gone through, and
that may be new. -/
structure KeepsFile (current : Location) (path : Path) (before after : Tree) : Prop where
  leads : ∀ location, before.locate current path = .ok location → after.locate current path = .ok location
  file : ∀ location, after.locate current path = .ok location →
    ∀ text, after.node? location = some (.file text) ↔ before.node? location = some (.file text)
  entry : ".." ∉ path.segments → ∀ location, after.locate current path = .ok location →
    after.node? location = before.node? location

theorem eq_append_of_locate (hup : ".." ∉ path.segments) (h : tree.locate current path = .ok target) :
    target = startOf current path ++ path.plainNames :=
  eq_append_of_walk hup (walk_nameSteps_of_locate h)

theorem up_not_mem_of_encloses {around : Path} (h : Encloses around path) (hup : ".." ∉ path.segments) :
    ".." ∉ around.segments := by
  intro hmem
  have hnames : ".." ∈ around.plainNames := List.mem_filter.2 ⟨hmem, by rfl⟩
  exact hup (List.mem_of_mem_filter ((filter_segments_of_encloses h (by rfl)).subset hnames))

section Below

variable {base : Path} {paths : List Path}

theorem up_mem_segments_join (h : path.isAbsolute = false) :
    ".." ∈ (base.join path).segments ↔ ".." ∈ base.segments ∨ ".." ∈ path.segments := by
  have hjoin : (base.join path).segments.filter (· = "..") =
      base.segments.filter (· = "..") ++ path.segments.filter (· = "..") :=
    Path.filter_segments_join h (by rfl)
  have hmem (segments : List String) : ".." ∈ segments ↔ ".." ∈ segments.filter (· = "..") := by
    simp [List.mem_filter]
  rw [hmem, hjoin, List.mem_append, ← hmem, ← hmem]

theorem plainNames_prefix_of_locate_around {around other : Path} (hrelative : path.isAbsolute = false)
    (hrelative' : other.isAbsolute = false) (hup' : ".." ∉ other.segments)
    (hdown : ".." ∉ (base.join path).segments) (haround : Encloses around (base.join other))
    (hplace : tree.locate current (base.join path) = .ok location)
    (hsame : tree.locate current around = .ok location) : path.plainNames <+: other.plainNames := by
  have hbase : ".." ∉ base.segments := fun hmem => hdown ((up_mem_segments_join hrelative).2 (.inl hmem))
  have hdown' : ".." ∉ (base.join other).segments := by
    rw [up_mem_segments_join hrelative']
    exact not_or.2 ⟨hbase, hup'⟩
  have hstart : startOf current around = startOf current (base.join path) := by
    rw [startOf, startOf, isAbsolute_of_encloses haround, Path.isAbsolute_join hrelative,
      Path.isAbsolute_join hrelative']
  have hnames : (base.join path).plainNames = around.plainNames := by
    have hpath := eq_append_of_locate hdown hplace
    rw [eq_append_of_locate (up_not_mem_of_encloses haround hdown') hsame, hstart] at hpath
    exact (List.append_cancel_left hpath).symm
  have hbegins : around.plainNames <+: (base.join other).plainNames :=
    filter_segments_of_encloses haround (by rfl)
  rwa [← hnames, Path.plainNames_join hrelative, Path.plainNames_join hrelative',
    List.prefix_append_right_inj] at hbegins

variable (hrelative : path.isAbsolute = false) (hup : ".." ∉ path.segments)
  (hrelatives : ∀ other ∈ paths, other.isAbsolute = false)
  (hups : ∀ other ∈ paths, ".." ∉ other.segments)

include hrelative hup hrelatives hups

theorem readText_of_disturbed {text : String}
    (hapart : ∀ other ∈ paths, path.plainNames ≠ other.plainNames)
    (h : Disturbed current (paths.map base.join) before after)
    (htext : before.readText current (base.join path) = .ok text) :
    after.readText current (base.join path) = .ok text := by
  obtain ⟨location, hplace, hfile⟩ := readText_eq_ok_iff.1 htext
  have hlater := locate_of_keepsDirectories h.keeps hplace
  refine readText_eq_ok_iff.2 ⟨location, hlater, ?_⟩
  by_contra hnode
  rcases h.changed location fun hsame => hnode (hsame.trans hfile) with
    ⟨target, htarget, hsame⟩ | ⟨hnone, -⟩
  · obtain ⟨other, hother, rfl⟩ := List.mem_map.1 htarget
    exact hapart other hother (plainNames_eq_of_locate_join hrelative hup (hrelatives other hother)
      (hups other hother) hlater hsame)
  · cases hnone.symm.trans hfile

/-- Where other files are disturbed whose names do not begin with those of a path below the base, the path
leads to what was there, or back to a new directory. -/
theorem node?_of_disturbed (hapart : ∀ other ∈ paths, ¬ path.plainNames <+: other.plainNames)
    (h : Disturbed current (paths.map base.join) before after)
    (hplace : after.locate current (base.join path) = .ok location) :
    after.node? location = before.node? location ∨
      (".." ∈ (base.join path).segments ∧ before.node? location = none ∧
        after.node? location = some .directory) := by
  refine or_iff_not_imp_left.2 fun hchanged => ?_
  rcases h.changed location hchanged with
    ⟨target, htarget, hsame⟩ | ⟨hfree, hmade, target, htarget, around, haround, hsame⟩
  · obtain ⟨other, hother, rfl⟩ := List.mem_map.1 htarget
    have hnames := plainNames_eq_of_locate_join hrelative hup (hrelatives other hother)
      (hups other hother) hplace hsame
    exact absurd (hnames ▸ List.prefix_rfl) (hapart other hother)
  · obtain ⟨other, hother, rfl⟩ := List.mem_map.1 htarget
    refine ⟨?_, hfree, hmade⟩
    by_contra hdown
    exact hapart other hother (plainNames_prefix_of_locate_around hrelative (hrelatives other hother)
      (hups other hother) hdown haround hplace hsame)

theorem keepsFile_of_disturbed (hapart : ∀ other ∈ paths, ¬ path.plainNames <+: other.plainNames)
    (h : Disturbed current (paths.map base.join) before after) :
    KeepsFile current (base.join path) before after := by
  have hnode {location : Location} (hplace : after.locate current (base.join path) = .ok location) :=
    node?_of_disturbed hrelative hup hrelatives hups hapart h hplace
  refine ⟨fun location => locate_of_keepsDirectories h.keeps, fun location hplace text => ?_,
    fun hdown location hplace => ?_⟩
  · rcases hnode hplace with hsame | ⟨-, hfree, hmade⟩
    · rw [hsame]
    · simp [hfree, hmade]
  · exact (hnode hplace).resolve_right fun hback => hdown hback.1

end Below

end ThemeBlocks.Files.Tree

import Mathlib.Data.List.DropRight
import ThemeBlocks.Proofs.Files.Joined

/-! What stays as it was when directories are made and files are written. Only two kinds of places
change: those where a text is written, and missing ones around them, which become directories. -/

namespace ThemeBlocks.Files

/-- The first path names a directory around the second. -/
inductive Encloses : Path → Path → Prop
  | parent {path parent : Path} : path.parent? = some parent → Encloses parent path
  | around {path parent outer : Path} : path.parent? = some parent → Encloses outer parent →
      Encloses outer path

namespace Tree

variable {current target location : Location} {path : Path} {tree after : Tree}

theorem mem_chainOf {bound : Nat} {member path : Path} (h : member ∈ chainOf bound path) :
    member = path ∨ Encloses member path := by
  induction bound generalizing path with
  | zero => cases h
  | succ bound ih =>
    unfold chainOf at h
    split at h
    · cases h
    · rcases List.mem_cons.1 h with rfl | h
      · exact .inl rfl
      · cases hparent : path.parent? with
        | none => simp [hparent] at h
        | some parent =>
          rw [hparent] at h
          rcases ih h with rfl | henclosed
          · exact .inr (.parent hparent)
          · exact .inr (.around hparent henclosed)

theorem advance_stay (h : tree.node? location = some .directory) :
    tree.advance location .stay = .ok location := by
  rw [advance, h]

theorem locate_endSlash {text : String} (hne : text ≠ "")
    (h : tree.locate current ⟨text⟩ = .ok target) (hnode : tree.node? target = some .directory) :
    tree.locate current ⟨text ++ "/"⟩ = .ok target := by
  have hwalk := walk_nameSteps_of_locate h
  have hnonempty : text.toList ≠ [] := mt String.toList_eq_nil_iff.1 hne
  have hstart : startOf current ⟨text ++ "/"⟩ = startOf current ⟨text⟩ := by
    simp [startOf, Path.isAbsolute, List.head?_append_of_ne_nil _ hnonempty]
  have hsteps : nameSteps ⟨text ++ "/"⟩ = nameSteps ⟨text⟩ := by
    rw [nameSteps, nameSteps, Path.filter_segments_endSlash (by rfl)]
  have hproblem : pathProblem? ⟨text ++ "/"⟩ = none := by
    cases hproblem : pathProblem? ⟨text⟩ with
    | some problem => simp [locate, hproblem] at h
    | none =>
      unfold pathProblem? at hproblem ⊢
      simp_all
  -- The slash adds the step that stays, and a directory can be stayed in.
  simp only [locate, hproblem]
  rw [hstart, stepsOf, hsteps, walk_append, bind_of_ok hwalk]
  split
  · rw [walk_cons, bind_of_ok (advance_stay hnode)]
    rfl
  · rfl

theorem locate_endSlashes {text : String} {slashes : List Char} (hslashes : ∀ c ∈ slashes, c = '/')
    (hne : text ≠ "") (h : tree.locate current ⟨text⟩ = .ok target)
    (hnode : tree.node? target = some .directory) :
    tree.locate current ⟨text ++ .ofList slashes⟩ = .ok target := by
  induction slashes generalizing text with
  | nil => simpa using h
  | cons c slashes ih =>
    obtain ⟨rfl, hrest⟩ := List.forall_mem_cons.1 hslashes
    have hsplit : text ++ String.ofList ('/' :: slashes) = text ++ "/" ++ .ofList slashes := by
      rw [← String.toList_inj]
      simp
    rw [hsplit]
    exact ih hrest (by simp) (locate_endSlash hne h hnode)

theorem locate_of_bare (h : tree.locate current (bare path) = .ok target)
    (hnode : tree.node? target = some .directory) : tree.locate current path = .ok target := by
  obtain ⟨text⟩ := path
  unfold bare at h
  change tree.locate current (if (text.toList.rdropWhile (· = '/')).isEmpty then ⟨text⟩ else
    ⟨.ofList (text.toList.rdropWhile (· = '/'))⟩) = .ok target at h
  split at h
  · exact h
  · next hkept =>
    have hsplit : text = .ofList (text.toList.rdropWhile (· = '/')) ++
        .ofList (text.toList.rtakeWhile (· = '/')) := by
      rw [← String.toList_inj, String.toList_append, String.toList_ofList, String.toList_ofList,
        List.rdropWhile_append_rtakeWhile]
    rw [hsplit]
    refine locate_endSlashes (fun c hc => by simpa using List.mem_rtakeWhile_imp hc) ?_ h hnode
    simpa using hkept

theorem isDirectory_iff : tree.isDirectory current path ↔
    ∃ location, tree.locate current path = .ok location ∧ tree.node? location = some .directory := by
  unfold isDirectory lookup
  cases tree.locate current path with
  | error error => simp [Bind.bind, Except.bind]
  | ok location =>
    cases hnode : tree.node? location with
    | none => simp [Bind.bind, Except.bind, hnode]
    | some node => cases node <;> simp [Bind.bind, Except.bind, hnode]

theorem isDirectory_of_keepsDirectories (keeps : KeepsDirectories tree after)
    (h : tree.isDirectory current path) : after.isDirectory current path := by
  obtain ⟨location, hlocate, hnode⟩ := isDirectory_iff.1 h
  exact isDirectory_iff.2 ⟨location, locate_of_keepsDirectories keeps hlocate, keeps location hnode⟩

theorem makeDirectory_eq_ok_iff : tree.makeDirectory current path = .ok after ↔
    ∃ target, tree.targetOf current (bare path) .present = .ok target ∧ tree.node? target = none ∧
      after = tree.insert target .directory := by
  unfold makeDirectory
  constructor
  · intro h
    obtain ⟨target, htarget, hinsert⟩ := exists_ok_of_bind h
    split at hinsert
    · cases hinsert
    · next hnode =>
      cases hinsert
      exact ⟨target, htarget, hnode, rfl⟩
  · rintro ⟨target, htarget, hnode, rfl⟩
    rw [bind_of_ok htarget, hnode]

theorem makeDirectory_spec (h : tree.makeDirectory current path = .ok after) :
    ∃ target, after.locate current path = .ok target ∧ tree.node? target = none ∧
      after.node? target = some .directory ∧
      ∀ other, other ≠ target → after.node? other = tree.node? other := by
  obtain ⟨target, htarget, hnode, rfl⟩ := makeDirectory_eq_ok_iff.1 h
  have hne : target ≠ [] := by
    rintro rfl
    cases hnode
  have hkeeps := (extends_insert hnode .directory).keepsDirectories
  have hmade := node?_insert_self hne tree .directory
  exact ⟨target, locate_of_bare (locate_of_keepsDirectories hkeeps (locate_of_targetOf htarget)) hmade,
    hnode, hmade, fun other hother => node?_insert_of_ne hother tree _⟩

theorem ensureDirectory_of_isDirectory (h : tree.isDirectory current path) :
    tree.ensureDirectory current path = .ok tree := by
  unfold ensureDirectory
  split
  · next made hmade =>
    obtain ⟨location, hlocate, hnode⟩ := isDirectory_iff.1 h
    obtain ⟨target, htarget, hfree, -⟩ := makeDirectory_spec hmade
    have hsame := locate_of_keepsDirectories (extends_makeDirectory hmade).keepsDirectories hlocate
    obtain rfl : target = location := Except.ok.inj (htarget.symm.trans hsame)
    cases hfree.symm.trans hnode
  · rw [if_pos h]

theorem isDirectory_of_ensureDirectory (h : tree.ensureDirectory current path = .ok after) :
    after.isDirectory current path := by
  unfold ensureDirectory at h
  split at h
  · next made hmade =>
    cases h
    obtain ⟨target, htarget, -, hnode, -⟩ := makeDirectory_spec hmade
    exact isDirectory_iff.2 ⟨target, htarget, hnode⟩
  · split at h
    · next hdirectory =>
      cases h
      exact hdirectory
    · cases h

theorem isDirectory_of_ensureChain {parents : List Path}
    (h : ensureChain tree current (path :: parents) = (.ok (), after)) :
    after.isDirectory current path := by
  unfold ensureChain at h
  split at h
  · next made hmade =>
    cases h
    exact isDirectory_of_ensureDirectory hmade
  · split at h
    · split at h
      · next made hmade =>
        cases h
        exact isDirectory_of_ensureDirectory hmade
      · cases h
    · next hfailed => exact absurd h (hfailed _)
  · cases h

theorem ensureChain_of_isDirectory (h : tree.isDirectory current path) (parents : List Path) :
    ensureChain tree current (path :: parents) = (.ok (), tree) := by
  unfold ensureChain
  rw [ensureDirectory_of_isDirectory h]

/-- Directories that were made once need not be made again. -/
theorem makeDirectories_again {before made : Tree}
    (h : before.makeDirectories current path = (.ok (), made)) (keeps : KeepsDirectories made after) :
    after.makeDirectories current path = (.ok (), after) := by
  unfold makeDirectories chainOf at h ⊢
  split
  · rfl
  · next hempty =>
    rw [if_neg hempty] at h
    have hdirectory := isDirectory_of_keepsDirectories keeps (isDirectory_of_ensureChain h)
    exact ensureChain_of_isDirectory hdirectory _

/-- Apart from what is at the paths, and from new directories around them, all is as it was. -/
structure Touched (current : Location) (paths : List Path) (before after : Tree) : Prop where
  keeps : KeepsDirectories before after
  changed : ∀ location, after.node? location ≠ before.node? location →
    (∃ text, after.node? location = some (.file text) ∧
      ∃ path ∈ paths, after.locate current path = .ok location) ∨
    (before.node? location = none ∧ after.node? location = some .directory ∧
      ∃ path ∈ paths, ∃ around, Encloses around path ∧ after.locate current around = .ok location)

namespace Touched

variable {paths : List Path} {before middle : Tree}

theorem refl (tree : Tree) : Touched current paths tree tree :=
  ⟨.refl tree, fun _ h => absurd rfl h⟩

theorem trans (hfirst : Touched current paths before middle)
    (hsecond : Touched current paths middle after) : Touched current paths before after := by
  refine ⟨hfirst.keeps.trans hsecond.keeps, fun location hne => ?_⟩
  by_cases hlater : after.node? location = middle.node? location
  · rw [hlater] at hne ⊢
    rcases hfirst.changed location hne with ⟨text, hfile, path, hpath, hplace⟩ |
      ⟨hfree, hmade, path, hpath, around, haround, hplace⟩
    · exact .inl ⟨text, hfile, path, hpath, locate_of_keepsDirectories hsecond.keeps hplace⟩
    · exact .inr ⟨hfree, hmade, path, hpath, around, haround,
        locate_of_keepsDirectories hsecond.keeps hplace⟩
  · rcases hsecond.changed location hlater with hwritten | ⟨hfree, hmade, hplace⟩
    · exact .inl hwritten
    · -- Nothing takes an entry away, so what was free in the middle was free before.
      have hbefore : before.node? location = none := by
        by_contra hsome
        rcases hfirst.changed location fun h => hsome (h.symm.trans hfree) with
          ⟨text, hfile, -⟩ | ⟨-, hdirectory, -⟩
        · cases hfree.symm.trans hfile
        · cases hfree.symm.trans hdirectory
      exact .inr ⟨hbefore, hmade, hplace⟩

end Touched

section Around

variable {paths : List Path}

theorem touched_writeText {text : String} (hpath : path ∈ paths)
    (h : tree.writeText current path text = .ok after) : Touched current paths tree after := by
  obtain ⟨target, hplace, hnode, hkeeps, hsame⟩ := writeText_spec h
  refine ⟨hkeeps, fun location hne => .inl ?_⟩
  obtain rfl : location = target := by
    by_contra hother
    exact hne (hsame location hother)
  exact ⟨text, hnode, path, hpath, hplace⟩

variable {around : Path} (hpath : path ∈ paths)

include hpath

theorem touched_ensureDirectory (haround : Encloses around path)
    (h : tree.ensureDirectory current around = .ok after) : Touched current paths tree after := by
  unfold ensureDirectory at h
  split at h
  · next made hmade =>
    cases h
    obtain ⟨target, hplace, hfree, hnode, hsame⟩ := makeDirectory_spec hmade
    refine ⟨(extends_makeDirectory hmade).keepsDirectories, fun location hne => .inr ?_⟩
    obtain rfl : location = target := by
      by_contra hother
      exact hne (hsame location hother)
    exact ⟨hfree, hnode, path, hpath, around, haround, hplace⟩
  · split at h
    · cases h
      exact .refl _
    · cases h

theorem touched_ensureChain {chain : List Path} (hchain : ∀ member ∈ chain, Encloses member path) :
    Touched current paths tree (ensureChain tree current chain).2 := by
  induction chain with
  | nil => exact .refl tree
  | cons member parents ih =>
    obtain ⟨hmember, hparents⟩ := List.forall_mem_cons.1 hchain
    have haround := ih hparents
    unfold ensureChain
    split
    · next made hmade => exact touched_ensureDirectory hpath hmember hmade
    · split
      · next middle hmiddle =>
        rw [hmiddle] at haround
        split
        · next made hmade => exact haround.trans (touched_ensureDirectory hpath hmember hmade)
        · exact haround
      · exact haround
    · exact .refl tree

theorem touched_makeDirectories (hparent : path.parent? = some around) :
    Touched current paths tree (tree.makeDirectories current around).2 := by
  refine touched_ensureChain hpath fun member hmember => ?_
  rcases mem_chainOf hmember with rfl | henclosed
  · exact .parent hparent
  · exact .around hparent henclosed

end Around

end Tree

end ThemeBlocks.Files

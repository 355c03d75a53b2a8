import ThemeBlocks.Files.Tree
import ThemeBlocks.Proofs.Results

/-! What changes in a tree when directories are made and files are written. Making directories takes
nothing away, and writing a file never replaces a directory; so a path that leads somewhere leads to the
same place ever after, and a text that was written is read back until that place is written again. -/

namespace ThemeBlocks.Files.Tree

variable {current place target location : Location} {path : Path} {text : String}
  {before middle after tree : Tree}

def Extends (before after : Tree) : Prop :=
  ∀ location node, before.node? location = some node → after.node? location = some node

def KeepsDirectories (before after : Tree) : Prop :=
  ∀ location, before.node? location = some .directory → after.node? location = some .directory

theorem Extends.refl (tree : Tree) : Extends tree tree :=
  fun _ _ h => h

theorem Extends.trans (hfirst : Extends before middle) (hsecond : Extends middle after) :
    Extends before after :=
  fun location node h => hsecond location node (hfirst location node h)

theorem Extends.keepsDirectories (h : Extends before after) : KeepsDirectories before after :=
  fun location => h location .directory

theorem KeepsDirectories.refl (tree : Tree) : KeepsDirectories tree tree :=
  fun _ h => h

theorem KeepsDirectories.trans (hfirst : KeepsDirectories before middle)
    (hsecond : KeepsDirectories middle after) : KeepsDirectories before after :=
  fun location h => hsecond location (hfirst location h)

theorem extends_insert (h : tree.node? location = none) (node : Node) :
    Extends tree (tree.insert location node) := by
  intro other otherNode hother
  have hne : other ≠ location := by
    rintro rfl
    simp [h] at hother
  rw [node?_insert_of_ne hne]
  exact hother

theorem keepsDirectories_insert (h : tree.node? location ≠ some .directory) (node : Node) :
    KeepsDirectories tree (tree.insert location node) := by
  intro other hother
  have hne : other ≠ location := by
    rintro rfl
    exact h hother
  rw [node?_insert_of_ne hne]
  exact hother

theorem advance_of_keepsDirectories (keeps : KeepsDirectories before after) {step : Step}
    (h : before.advance place step = .ok target) : after.advance place step = .ok target := by
  unfold advance at h ⊢
  cases hnode : before.node? place with
  | none => simp [hnode] at h
  | some node =>
    cases node with
    | file text => simp [hnode] at h
    | directory =>
      rw [hnode] at h
      rw [keeps place hnode]
      exact h

theorem walk_cons (place : Location) (step : Step) (steps : List Step) :
    tree.walk place (step :: steps) = tree.advance place step >>= (tree.walk · steps) :=
  List.foldlM_cons

theorem walk_append (place : Location) (front back : List Step) :
    tree.walk place (front ++ back) = tree.walk place front >>= (tree.walk · back) :=
  List.foldlM_append

theorem walk_of_keepsDirectories (keeps : KeepsDirectories before after) {steps : List Step}
    (h : before.walk place steps = .ok target) : after.walk place steps = .ok target := by
  induction steps generalizing place with
  | nil => exact h
  | cons step steps ih =>
    rw [walk_cons] at h ⊢
    obtain ⟨next, hnext, hrest⟩ := exists_ok_of_bind h
    rw [bind_of_ok (advance_of_keepsDirectories keeps hnext)]
    exact ih hrest

theorem locate_of_keepsDirectories (keeps : KeepsDirectories before after)
    (h : before.locate current path = .ok target) : after.locate current path = .ok target := by
  unfold locate at h ⊢
  split at h
  · cases h
  · exact walk_of_keepsDirectories keeps h

/-- A target is one step, to a name, behind a place that is reached. -/
theorem targetOf_spec {nameless : DiskError} (h : tree.targetOf current path nameless = .ok target) :
    pathProblem? path = none ∧ endsInSlash path = false ∧
      ∃ front name place, nameSteps path = front ++ [.down name] ∧
        tree.walk (startOf current path) front = .ok place ∧
        tree.advance place (.down name) = .ok target := by
  unfold targetOf at h
  split at h
  · cases h
  · next hproblem =>
    obtain ⟨place, hplace, htarget⟩ := exists_ok_of_bind h
    split at htarget
    · cases htarget
    · next step hlast =>
      obtain ⟨front, hfront⟩ := List.getLast?_eq_some_iff.1 hlast
      obtain ⟨reached, hreached, hstep⟩ := exists_ok_of_bind htarget
      split at hstep
      · next name =>
        split at hstep
        · cases hstep
        · next hslash =>
          cases hstep
          rw [hfront, List.dropLast_concat] at hplace
          exact ⟨hproblem, by simpa using hslash, front, name, place, hfront, hplace, hreached⟩
      · cases hstep

theorem locate_of_targetOf {nameless : DiskError} (h : tree.targetOf current path nameless = .ok target) :
    tree.locate current path = .ok target := by
  obtain ⟨hproblem, hslash, front, name, place, hsteps, hplace, htarget⟩ := targetOf_spec h
  have hall : stepsOf path = front ++ [.down name] := by simp [stepsOf, hslash, hsteps]
  have hlast : tree.walk place [.down name] = .ok target := by
    rw [walk_cons, bind_of_ok htarget]
    rfl
  simp only [locate, hproblem]
  rw [hall, walk_append, hplace]
  exact hlast

theorem targetOf_of_keepsDirectories {nameless : DiskError} (keeps : KeepsDirectories before after)
    (h : before.targetOf current path nameless = .ok target) :
    after.targetOf current path nameless = .ok target := by
  unfold targetOf at h ⊢
  split at h
  · cases h
  · obtain ⟨place, hplace, hrest⟩ := exists_ok_of_bind h
    rw [bind_of_ok (walk_of_keepsDirectories keeps hplace)]
    split at hrest
    · cases hrest
    · obtain ⟨reached, hreached, hend⟩ := exists_ok_of_bind hrest
      exact (bind_of_ok (advance_of_keepsDirectories keeps hreached)).trans hend

theorem writeText_eq_ok_iff :
    tree.writeText current path text = .ok after ↔
      ∃ target, tree.targetOf current path .isDirectory = .ok target ∧
        tree.node? target ≠ some .directory ∧ after = tree.insert target (.file text) := by
  unfold writeText
  constructor
  · intro h
    obtain ⟨target, htarget, hinsert⟩ := exists_ok_of_bind h
    split at hinsert
    · cases hinsert
    · next hnode =>
      cases hinsert
      exact ⟨target, htarget, hnode, rfl⟩
  · rintro ⟨target, htarget, hnode, rfl⟩
    rw [bind_of_ok htarget]
    cases hfound : tree.node? target with
    | none => rfl
    | some node =>
      cases node with
      | file text => rfl
      | directory => exact absurd hfound hnode

theorem readText_eq_ok_iff :
    tree.readText current path = .ok text ↔
      ∃ location, tree.locate current path = .ok location ∧
        tree.node? location = some (.file text) := by
  unfold readText lookup
  cases tree.locate current path with
  | error error => simp [Bind.bind, Except.bind]
  | ok location =>
    cases hnode : tree.node? location with
    | none => simp [Bind.bind, Except.bind, hnode]
    | some node => cases node <;> simp [Bind.bind, Except.bind, hnode]

theorem writeText_spec (h : tree.writeText current path text = .ok after) :
    ∃ target, after.locate current path = .ok target ∧ after.node? target = some (.file text) ∧
      KeepsDirectories tree after ∧
      ∀ other, other ≠ target → after.node? other = tree.node? other := by
  obtain ⟨target, htarget, hnode, rfl⟩ := writeText_eq_ok_iff.1 h
  have hne : target ≠ [] := by
    rintro rfl
    exact hnode rfl
  have hkeeps := keepsDirectories_insert hnode (.file text)
  exact ⟨target, locate_of_keepsDirectories hkeeps (locate_of_targetOf htarget),
    node?_insert_self hne tree _, hkeeps, fun other hother => node?_insert_of_ne hother tree _⟩

theorem extends_makeDirectory (h : tree.makeDirectory current path = .ok after) :
    Extends tree after := by
  unfold makeDirectory at h
  obtain ⟨target, -, hinsert⟩ := exists_ok_of_bind h
  split at hinsert
  · cases hinsert
  · next hnode =>
    cases hinsert
    exact extends_insert hnode _

theorem extends_ensureDirectory (h : tree.ensureDirectory current path = .ok after) :
    Extends tree after := by
  unfold ensureDirectory at h
  split at h
  · next made hmade =>
    cases h
    exact extends_makeDirectory hmade
  · split at h
    · cases h
      exact Extends.refl _
    · cases h

theorem extends_ensureChain (paths : List Path) : Extends tree (ensureChain tree current paths).2 := by
  induction paths with
  | nil => exact Extends.refl tree
  | cons path parents ih =>
    unfold ensureChain
    split
    · next made hmade => exact extends_ensureDirectory hmade
    · split
      · next around hchain =>
        rw [hchain] at ih
        split
        · next made hmade => exact ih.trans (extends_ensureDirectory hmade)
        · exact ih
      · exact ih
    · exact Extends.refl tree

theorem extends_makeDirectories : Extends tree (tree.makeDirectories current path).2 :=
  extends_ensureChain _

end ThemeBlocks.Files.Tree

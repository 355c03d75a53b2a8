import ThemeBlocks.Machine
import ThemeBlocks.Proofs.Block.Verdict
import ThemeBlocks.Proofs.Project.Runs
import ThemeBlocks.Proofs.Sync.Course

/-! Which failures count as failures of the registry. A run whose registry has been accepted ends in none
of them, whatever is answered and whatever the disk does. A refused list of blocks ends in one of them,
unless it is refused for the name of a block: that counts as a matter of configuration. -/

namespace ThemeBlocks.Project

open Block
open Files (Path)
open Sync (Act Answer Course Fallback Gateway Happens Plan State)

/-- The first block that is unfit by itself is so for its name. -/
def MisnamedFirst (blocks : List Descriptor) : Prop :=
  ∃ before block, before ++ [block] <+: blocks ∧
    (∀ other ∈ before, FitName other.blockName ∧ FitKeys other) ∧ ¬ FitName block.blockName

theorem FirstBreach.unique {blocks : List Descriptor} {failure other : Failure}
    (h : FirstBreach blocks failure) (hother : FirstBreach blocks other) : failure = other :=
  Except.error.inj ((check_eq_error_iff_firstBreach.2 h).symm.trans
    (check_eq_error_iff_firstBreach.2 hother))

theorem isRegistryError_iff_of_firstBreach {blocks : List Descriptor} {failure : Failure}
    (h : FirstBreach blocks failure) : failure.isRegistryError ↔ ¬ MisnamedFirst blocks := by
  constructor
  · rintro hregistry ⟨before, block, hprefix, hbefore, hname⟩
    rw [FirstBreach.unique h (.name hprefix hbefore hname)] at hregistry
    cases hregistry
  · intro hfirst
    cases h with
    | name hprefix hbefore hname => exact absurd ⟨_, _, hprefix, hbefore, hname⟩ hfirst
    | keys => rfl
    | blockName => rfl
    | capitals => rfl
    | slash => rfl
    | typeName => rfl

theorem isRegistryError_unreachable (useless : FetchError ⊕ Cms.Response) :
    (Sync.unreachable useless).isRegistryError = false := by
  cases useless <;> rfl

theorem isRegistryError_of_fallback {plan : Plan} {acts : List Act} {failure : Failure}
    (h : Fallback plan acts (.error failure))
    (refuses : ∀ bundle failure, .handed bundle (.error failure) ∈ acts → IsRegeneration failure) :
    failure.isRegistryError = false := by
  cases h with
  | unreachable => exact isRegistryError_unreachable _
  | unreadable => rfl
  | refused =>
    obtain ⟨cause, rfl⟩ := refuses _ _ (List.mem_cons_of_mem _ (List.mem_singleton_self _))
    rfl

theorem isRegistryError_of_course {plan : Plan} {query : String} {acts : List Act} {failure : Failure}
    (h : Course plan query acts (.error failure))
    (refuses : ∀ bundle failure, .handed bundle (.error failure) ∈ acts → IsRegeneration failure) :
    failure.isRegistryError = false := by
  cases h with
  | unreadable => rfl
  | fallback _ hrest =>
    exact isRegistryError_of_fallback hrest fun bundle failure hmem =>
      refuses bundle failure (List.mem_cons_of_mem _ hmem)

section Runs

variable {σ : Type} [Host (StateM σ)]

def directoryGateway (fetch : String → StateM σ Answer) (root : Path) : Gateway (StateM σ) :=
  ⟨fetch, writeTheme root⟩

/-- A failure counts as one of the registry exactly if a list of blocks was refused for anything but a
block's name. -/
theorem registryErrors_told_apart (blocks : List Descriptor) :
    (∀ failure, Registry.ofBlocks blocks = .error failure →
      (failure.isRegistryError ↔ ¬ MisnamedFirst blocks)) ∧
    ∀ (fetch : String → StateM σ Answer) (root : Path) (plan : Plan) (state : State) (world : σ) failure,
      (((Sync.run (directoryGateway fetch root) plan).run.run state).run world).1.1 = .error failure →
      failure.isRegistryError = false := by
  constructor
  · intro failure hrefused
    exact isRegistryError_iff_of_firstBreach
      (check_eq_error_iff_firstBreach.1 (Registry.ofBlocks_eq_error_iff.1 hrefused))
  · intro fetch root plan state world failure hfailed
    obtain ⟨query, hquery⟩ := Sync.fullQuery_eq_ok plan
    obtain ⟨acts, hacts, hcourse⟩ := Sync.does_run (directoryGateway fetch root) hquery state world
    rw [hfailed] at hcourse
    refine isRegistryError_of_course hcourse fun bundle other hmem => ?_
    obtain ⟨before, hreceipt⟩ := Sync.exists_world_of_handed hacts hmem
    exact isRegeneration_of_writeTheme hreceipt

end Runs

def twinBlock : Descriptor where
  blockName := "hero"
  displayName := "Hero"
  typeName := "AcfHero"

def lostGateway : Gateway Machine.Run :=
  directoryGateway (fun _ => pure (.error (.transport none "connection refused"))) ⟨"/site"⟩

def lostRun : Except Failure Sync.Context :=
  (((Sync.run lostGateway ⟨.empty, .default, {}⟩).run.run .querying).run
    { directory := ⟨"/"⟩, place := [] }).1.1

theorem registryErrors_told_apart_twins :
    Registry.ofBlocks [twinBlock, twinBlock] = .error (.duplicateBlock "hero") ∧
      ¬ MisnamedFirst [twinBlock, twinBlock] ∧
      ∃ failure, lostRun = .error failure ∧ failure.isRegistryError = false := by
  have hrefused : Registry.ofBlocks [twinBlock, twinBlock] = .error (.duplicateBlock "hero") :=
    Registry.ofBlocks_eq_error_iff.2 rfl
  obtain ⟨hblocks, hruns⟩ := registryErrors_told_apart (σ := Machine) [twinBlock, twinBlock]
  exact ⟨hrefused, (hblocks _ hrefused).1 rfl, _, rfl, hruns _ _ _ _ _ _ (rfl : lostRun = _)⟩

def capitalBlock : Descriptor where
  blockName := "Hero"
  displayName := "Hero"
  typeName := "AcfHero"

theorem capitalBlock_not_told :
    Registry.ofBlocks [capitalBlock] = .error (misnamed "Hero") ∧
      (misnamed "Hero").isRegistryError = false :=
  ⟨Registry.ofBlocks_eq_error_iff.2 rfl, rfl⟩

end ThemeBlocks.Project

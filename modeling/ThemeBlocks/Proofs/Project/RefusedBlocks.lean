import Mathlib.Data.List.Basic
import ThemeBlocks.Proofs.Project.Runs
import ThemeBlocks.Proofs.Files.Changes

/-! Commands on blocks that the registry refuses. `sync` and `generate` look at the blocks before anything
else, so on any host they are nothing but that refusal. `queryText` reads the query template first:
whatever goes wrong there is reported in the place of the refusal. -/

namespace ThemeBlocks.Project

open Files (Path)
open Settings (Task settle)

variable {settings : Settings} {failure : Failure}

def blocksTrouble (failure : Failure) : Trouble :=
  (Trouble.ofFailure failure).within "Invalid block definitions"

theorem registry_of_refused (h : Registry.ofBlocks settings.blocks = .error failure) :
    settings.registry = .error (blocksTrouble failure) := by
  rw [Settings.registry, h]
  rfl

section Host

variable {m : Type → Type} [Monad m] [LawfulMonad m] {α β : Type}

theorem settle_error_bind (trouble : Trouble) (next : α → Task m β) :
    (settle (.error trouble) : Task m α) >>= next = throw trouble := by
  apply ExceptT.ext
  rw [ExceptT.run_bind]
  simp [settle]

variable [Host m]

theorem sync_of_refused (h : Registry.ofBlocks settings.blocks = .error failure) :
    (sync settings : Task m Sync.Context) = throw (blocksTrouble failure) := by
  unfold sync
  rw [registry_of_refused h, settle_error_bind]

theorem generate_of_refused (h : Registry.ofBlocks settings.blocks = .error failure) :
    (generate settings : Task m Theme.WrittenFiles) = throw (blocksTrouble failure) := by
  unfold generate
  rw [registry_of_refused h, settle_error_bind]

theorem queryText_of_refused (h : Registry.ofBlocks settings.blocks = .error failure) :
    (queryText settings false : Task m String) =
      settings.template >>= fun _ => throw (blocksTrouble failure) := by
  unfold queryText
  rw [registry_of_refused h]
  simp only [settle_error_bind, Bool.false_eq_true, if_false]

end Host

theorem ne_blocksTrouble_of_template {machine : Machine} {trouble : Trouble}
    (h : ((settings.template : Task Machine.Run Query.Template).run.run machine).1 = .error trouble) :
    trouble ≠ blocksTrouble failure := by
  unfold Settings.template at h
  cases hpath : settings.queryTemplate with
  | none =>
    rw [hpath] at h
    cases h
  | some path =>
    rw [hpath] at h
    dsimp only at h
    rw [run_bind, run_readFile] at h
    cases hread : machine.tree.readText machine.place (settings.resolve path) with
    | error error =>
      rw [hread] at h
      cases h
      exact fun hsame => by cases congrArg Trouble.complaint hsame
    | ok text =>
      rw [hread] at h
      dsimp only [attemptDisk] at h
      cases htemplate : Query.Template.ofText text with
      | ok template =>
        rw [htemplate] at h
        cases h
      | error other =>
        rw [htemplate] at h
        cases h
        -- Both have one context, `Invalid query template` and `Invalid block definitions`.
        intro hsame
        have hcontext := List.singleton_inj.1 (congrArg Trouble.contexts hsame)
        have hword := congrArg (·.toList[8]?) hcontext
        simp at hword

theorem run_queryText_of_refused (h : Registry.ofBlocks settings.blocks = .error failure)
    (machine : Machine) :
    (queryText settings false : Task Machine.Run String).run.run machine =
      (((settings.template : Task Machine.Run Query.Template).run.run machine).1.bind
        fun _ => .error (blocksTrouble failure), machine) := by
  rw [queryText_of_refused h, run_bind, (gathers_template settings).run_eq]
  cases ((settings.template : Task Machine.Run Query.Template).run.run machine).1 <;> rfl

theorem run_queryText_refused_iff (h : Registry.ofBlocks settings.blocks = .error failure)
    (machine : Machine) :
    (queryText settings false : Task Machine.Run String).run.run machine =
        (.error (blocksTrouble failure), machine) ↔
      ∃ template, (settings.template : Task Machine.Run Query.Template).run.run machine =
        (.ok template, machine) := by
  rw [run_queryText_of_refused h, (gathers_template settings).run_eq]
  cases hresult : ((settings.template : Task Machine.Run Query.Template).run.run machine).1 with
  | ok template => exact ⟨fun _ => ⟨template, rfl⟩, fun _ => rfl⟩
  | error trouble =>
    constructor
    · intro hsame
      exact absurd (Except.error.inj (Prod.mk.inj hsame).1) (ne_blocksTrouble_of_template hresult)
    · rintro ⟨template, htemplate⟩
      cases htemplate

theorem queryTemplate_eq_none_of_run {machine : Machine} {template : Query.Template}
    (hempty : machine.tree = {})
    (h : (settings.template : Task Machine.Run Query.Template).run.run machine =
      (.ok template, machine)) : settings.queryTemplate = none := by
  unfold Settings.template at h
  cases hpath : settings.queryTemplate with
  | none => rfl
  | some path =>
    rw [hpath] at h
    obtain ⟨text, middle, hread, -⟩ := exists_run_of_bind h
    rw [run_readFile, hempty] at hread
    cases hresult : ({} : Files.Tree).readText machine.place (settings.resolve path) with
    | error error =>
      rw [hresult] at hread
      cases hread
    | ok given =>
      obtain ⟨location, -, hnode⟩ := Files.Tree.readText_eq_ok_iff.1 hresult
      unfold Files.Tree.node? at hnode
      split at hnode <;> cases hnode

/-- Blocks that are refused are what `sync` and `generate` report, and on any host they do nothing else.
`queryText` gets the template first, so it does nothing else exactly if no template is set. On a machine it
reports the blocks exactly if the template can be had, and otherwise what is wrong with the template. -/
theorem refused_blocks_reported (h : Registry.ofBlocks settings.blocks = .error failure) :
    (∀ (m : Type → Type) [Monad m] [LawfulMonad m] [Host m],
      (sync settings : Task m _) = throw (blocksTrouble failure) ∧
        (generate settings : Task m _) = throw (blocksTrouble failure) ∧
        (queryText settings false : Task m _) =
          settings.template >>= fun _ => throw (blocksTrouble failure)) ∧
    ((∀ (m : Type → Type) [Monad m] [LawfulMonad m] [Host m],
        (queryText settings false : Task m _) = throw (blocksTrouble failure)) ↔
      settings.queryTemplate = none) ∧
    ∀ machine : Machine,
      (sync settings : Task Machine.Run _).run.run machine =
          (.error (blocksTrouble failure), machine) ∧
        (generate settings : Task Machine.Run _).run.run machine =
          (.error (blocksTrouble failure), machine) ∧
        ((queryText settings false : Task Machine.Run _).run.run machine =
            (.error (blocksTrouble failure), machine) ↔
          ∃ template, (settings.template : Task Machine.Run _).run.run machine =
            (.ok template, machine)) ∧
        ∀ other, (settings.template : Task Machine.Run _).run.run machine = (.error other, machine) →
          (queryText settings false : Task Machine.Run _).run.run machine = (.error other, machine) := by
  refine ⟨fun m _ _ _ => ⟨sync_of_refused h, generate_of_refused h, queryText_of_refused h⟩,
    ⟨fun hall => ?_, fun hnone m _ _ _ => ?_⟩, fun machine => ⟨?_, ?_, ?_, fun other hother => ?_⟩⟩
  · -- A machine without files has the template only if none has to be read.
    let bare : Machine := { directory := ⟨"/"⟩, place := [] }
    have hrun : (queryText settings false : Task Machine.Run String).run.run bare =
        (.error (blocksTrouble failure), bare) := by
      rw [hall Machine.Run]
      rfl
    obtain ⟨template, htemplate⟩ := (run_queryText_refused_iff h bare).1 hrun
    exact queryTemplate_eq_none_of_run rfl htemplate
  · have htemplate : (settings.template : Task m Query.Template) = pure .default := by
      rw [Settings.template, hnone]
    rw [queryText_of_refused h, htemplate, pure_bind]
  · rw [sync_of_refused h]
    rfl
  · rw [generate_of_refused h]
    rfl
  · exact run_queryText_refused_iff h machine
  · rw [run_queryText_of_refused h, hother]
    rfl

def slashedProject (template : Option Path) : Settings where
  queryTemplate := template
  blocks := [{ blockName := "hero", displayName := "Hero", typeName := "Acf/Hero" }]
  base := ⟨"."⟩

def slashedFailure : Failure :=
  .naming "hero" "Acf/Hero" .slash

theorem slashedProject_reported :
    Registry.ofBlocks (slashedProject none).blocks = .error slashedFailure ∧
      ∀ machine : Machine,
        (sync (slashedProject none) : Task Machine.Run _).run.run machine =
            (.error (blocksTrouble slashedFailure), machine) ∧
          (generate (slashedProject none) : Task Machine.Run _).run.run machine =
            (.error (blocksTrouble slashedFailure), machine) ∧
          (queryText (slashedProject none) false : Task Machine.Run _).run.run machine =
            (.error (blocksTrouble slashedFailure), machine) := by
  have hrefused : Registry.ofBlocks (slashedProject none).blocks = .error slashedFailure := by rfl
  obtain ⟨-, hhosts, hmachines⟩ := refused_blocks_reported hrefused
  refine ⟨hrefused, fun machine => ?_⟩
  obtain ⟨hsync, hgenerate, -, -⟩ := hmachines machine
  refine ⟨hsync, hgenerate, ?_⟩
  rw [hhosts.2 rfl Machine.Run]
  rfl

/-- With a template that is missing, the blocks are refused and the template is reported. -/
theorem slashedProject_unreported :
    Settings.ofFile ⟨"blockgen.toml"⟩
        ("query_template = \"missing.graphql\"\n\n[[blocks]]\nblock_name = \"hero\"\n" ++
          "display_name = \"Hero\"\ngql_type_name = \"Acf/Hero\"\n") =
        .ok (slashedProject (some ⟨"missing.graphql"⟩)) ∧
      Registry.ofBlocks (slashedProject (some ⟨"missing.graphql"⟩)).blocks = .error slashedFailure ∧
      ((queryText (slashedProject (some ⟨"missing.graphql"⟩)) false :
          Task Machine.Run _).run.run { directory := ⟨"/"⟩, place := [] }).1 =
        .error ⟨["Failed to read query template: ./missing.graphql"], .disk .missing⟩ ∧
      (⟨["Failed to read query template: ./missing.graphql"], .disk .missing⟩ : Trouble) ≠
        blocksTrouble slashedFailure :=
  ⟨by decide +kernel, by rfl, by decide +kernel, by decide⟩

end ThemeBlocks.Project

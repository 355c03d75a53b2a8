import ThemeBlocks.Machine
import ThemeBlocks.Project.Commands
import ThemeBlocks.Proofs.Results

/-! Tasks on machines, run step by step. Some tasks only gather what a command needs: they leave the
machine as it is. Some have to do with the files alone: what comes of them depends on the files, and
nothing is sent. -/

namespace ThemeBlocks.Project

open Files (Path)
open Settings (Task settle)

variable {ε α β : Type}

section Steps

variable {σ : Type} {action : ExceptT ε (StateM σ) α} {next : α → ExceptT ε (StateM σ) β}
  {state middle after : σ}

theorem run_bind (action : ExceptT ε (StateM σ) α) (next : α → ExceptT ε (StateM σ) β) (state : σ) :
    (action >>= next).run.run state =
      match action.run.run state with
      | (.ok value, middle) => (next value).run.run middle
      | (.error error, middle) => (.error error, middle) := by
  rw [ExceptT.run_bind, StateT.run_bind]
  generalize action.run.run state = out
  obtain ⟨_ | _, _⟩ := out <;> rfl

theorem exists_run_of_bind {value : β}
    (h : (action >>= next).run.run state = (.ok value, after)) :
    ∃ first middle, action.run.run state = (.ok first, middle) ∧
      (next first).run.run middle = (.ok value, after) := by
  rw [run_bind] at h
  split at h
  · next first middle hfirst => exact ⟨first, middle, hfirst, h⟩
  · cases h

theorem run_bind_of_ok {first : α} (h : action.run.run state = (.ok first, middle)) :
    (action >>= next).run.run state = (next first).run.run middle := by
  rw [run_bind, h]

theorem run_bind_eq_error {error : ε} (h : (action >>= next).run.run state = (.error error, after)) :
    action.run.run state = (.error error, after) ∨
      ∃ first middle, action.run.run state = (.ok first, middle) ∧
        (next first).run.run middle = (.error error, after) := by
  rw [run_bind] at h
  split at h
  · next first middle hfirst => exact .inr ⟨first, middle, hfirst, h⟩
  · next other middle hfirst =>
    cases h
    exact .inl hfirst

theorem run_lift (action : StateM σ α) (state : σ) :
    (ExceptT.lift action : ExceptT ε (StateM σ) α).run.run state =
      (.ok (action.run state).1, (action.run state).2) := by
  rw [ExceptT.run_lift, StateT.run_map]
  rfl

theorem run_lift_of_run {action : StateM σ α} {value : α} (h : action.run state = (value, after)) :
    (ExceptT.lift action : ExceptT ε (StateM σ) α).run.run state = (.ok value, after) := by
  rw [run_lift, h]

theorem exists_run_of_lift_bind {action : StateM σ α} {result : Except ε β}
    (h : (ExceptT.lift action >>= next).run.run state = (result, after)) :
    ∃ value middle, action.run state = (value, middle) ∧
      (next value).run.run middle = (result, after) := by
  rw [run_bind, run_lift] at h
  exact ⟨_, _, rfl, h⟩

end Steps

/-- Every error of the action is of this kind. -/
def Raises {σ : Type} (p : ε → Prop) (action : ExceptT ε (StateM σ) α) : Prop :=
  ∀ state error, (action.run.run state).1 = .error error → p error

namespace Raises

variable {σ : Type} {p : ε → Prop} {action : ExceptT ε (StateM σ) α}
  {next : α → ExceptT ε (StateM σ) β}

theorem pure (value : α) : Raises p (Pure.pure value : ExceptT ε (StateM σ) α) :=
  fun _ _ h => by cases h

theorem throw {error : ε} (h : p error) :
    Raises p (MonadExcept.throw error : ExceptT ε (StateM σ) α) := by
  intro state other hother
  cases hother
  exact h

theorem lift (action : StateM σ α) : Raises p (ExceptT.lift action : ExceptT ε (StateM σ) α) := by
  intro state error h
  rw [run_lift] at h
  cases h

theorem bind (h : Raises p action) (hnext : ∀ value, Raises p (next value)) :
    Raises p (action >>= next) := by
  intro state error herror
  have hfirst := h state
  rw [run_bind] at herror
  generalize action.run.run state = out at hfirst herror
  obtain ⟨other | value, middle⟩ := out
  · cases herror
    exact hfirst _ rfl
  · exact hnext value middle error herror

end Raises

/-- Trouble that tells what was being done, or has a text of its own. -/
def IsOwn (trouble : Trouble) : Prop :=
  ∀ failure, trouble ≠ .ofFailure failure

theorem isOwn_of_contexts {trouble : Trouble} (h : trouble.contexts ≠ []) : IsOwn trouble := by
  rintro failure rfl
  exact h rfl

theorem isOwn_other (text : String) : IsOwn (.other text) := by
  intro failure h
  cases h

theorem isOwn_of_attempt {context : String} {result : Except Failure α} {trouble : Trouble}
    (h : attempt context result = .error trouble) : IsOwn trouble := by
  cases result with
  | ok value => cases h
  | error failure =>
    cases h
    exact isOwn_of_contexts (List.cons_ne_nil _ _)

theorem isOwn_of_attemptDisk {context : String} {result : Except Files.DiskError α}
    {trouble : Trouble} (h : attemptDisk context result = .error trouble) : IsOwn trouble := by
  cases result with
  | ok value => cases h
  | error error =>
    cases h
    exact isOwn_of_contexts (List.cons_ne_nil _ _)

/-- The task leaves the machine as it is, and if it ends in trouble, then in its own. -/
structure Gathers (task : Task Machine.Run α) : Prop where
  machine : ∀ machine, (task.run.run machine).2 = machine
  own : Raises IsOwn task

namespace Gathers

variable {task : Task Machine.Run α} {next : α → Task Machine.Run β}

theorem run_eq (h : Gathers task) (machine : Machine) :
    task.run.run machine = ((task.run.run machine).1, machine) :=
  Prod.ext rfl (h.machine machine)

theorem machine_eq (h : Gathers task) {machine after : Machine} {result : Except Trouble α}
    (hrun : task.run.run machine = (result, after)) : after = machine :=
  (congrArg Prod.snd hrun).symm.trans (h.machine machine)

theorem pure (value : α) : Gathers (Pure.pure value : Task Machine.Run α) :=
  ⟨fun _ => rfl, .pure value⟩

theorem bind (h : Gathers task) (hnext : ∀ value, Gathers (next value)) : Gathers (task >>= next) := by
  refine ⟨fun machine => ?_, h.own.bind fun value => (hnext value).own⟩
  rw [run_bind, h.run_eq]
  cases (task.run.run machine).1 with
  | ok value => exact (hnext value).machine machine
  | error trouble => rfl

end Gathers

theorem gathers_settle {result : Except Trouble α}
    (h : ∀ trouble, result = .error trouble → IsOwn trouble) :
    Gathers (settle result : Task Machine.Run α) :=
  ⟨fun _ => rfl, fun _ => h⟩

theorem run_registry {settings : Settings} {registry : Registry} (h : settings.registry = .ok registry)
    (machine : Machine) :
    (settle settings.registry : Task Machine.Run Registry).run.run machine = (.ok registry, machine) := by
  rw [h]
  rfl

theorem run_readFile (task : String) (path : Path) (machine : Machine) :
    (Settings.readFile task path : Task Machine.Run String).run.run machine =
      (attemptDisk (task ++ ": " ++ path.text) (machine.tree.readText machine.place path), machine) :=
  rfl

theorem gathers_readFile (task : String) (path : Path) :
    Gathers (Settings.readFile task path : Task Machine.Run String) :=
  ⟨fun _ => rfl, fun _ _ => isOwn_of_attemptDisk⟩

section Settings

variable (settings : Settings)

theorem gathers_registry : Gathers (settle settings.registry : Task Machine.Run Registry) :=
  gathers_settle fun _ => isOwn_of_attempt

theorem gathers_boilerplate (path : Option Path) (standard : String) :
    Gathers (settings.boilerplate path standard : Task Machine.Run String) := by
  cases path with
  | none => exact .pure standard
  | some path => exact gathers_readFile _ _

theorem gathers_options : Gathers (settings.options : Task Machine.Run Theme.Options) :=
  (gathers_boilerplate settings _ _).bind fun _ =>
    (gathers_boilerplate settings _ _).bind fun _ => .pure _

theorem gathers_template : Gathers (settings.template : Task Machine.Run Query.Template) := by
  unfold Settings.template
  cases settings.queryTemplate with
  | none => exact .pure _
  | some path => exact (gathers_readFile _ _).bind fun _ => gathers_settle fun _ => isOwn_of_attempt

theorem isOwn_of_endpointText {trouble : Trouble} (h : settings.endpointText = .error trouble) :
    IsOwn trouble := by
  unfold Settings.endpointText at h
  split at h
  · cases h
  · cases h
    exact isOwn_other _

theorem isOwn_of_clientWith {token : Option String} {trouble : Trouble}
    (h : settings.clientWith token = .error trouble) : IsOwn trouble := by
  unfold Settings.clientWith at h
  cases hendpoint : settings.endpointText with
  | error other =>
    rw [hendpoint] at h
    cases h
    exact isOwn_of_endpointText settings hendpoint
  | ok endpoint =>
    rw [bind_of_ok hendpoint] at h
    exact isOwn_of_attempt h

theorem gathers_client : Gathers (settings.client : Task Machine.Run Cms.Client) := by
  refine (gathers_settle fun _ => isOwn_of_endpointText settings).bind fun _ => Gathers.bind ?_ ?_
  · exact ⟨fun _ => rfl, .lift _⟩
  · exact fun _ => gathers_settle fun _ => isOwn_of_clientWith settings

end Settings

def SameFiles (machine other : Machine) : Prop :=
  machine.tree = other.tree ∧ machine.place = other.place

/-- What comes of the action, and what it does to the files, depends on the files; nothing is sent. -/
structure Local (action : ExceptT ε Machine.Run α) : Prop where
  agrees : ∀ machine other, SameFiles machine other →
    (action.run.run machine).1 = (action.run.run other).1 ∧
      SameFiles (action.run.run machine).2 (action.run.run other).2
  requests : ∀ machine, (action.run.run machine).2.requests = machine.requests

namespace Local

variable {action : ExceptT ε Machine.Run α} {next : α → ExceptT ε Machine.Run β}

theorem pure (value : α) : Local (Pure.pure value : ExceptT ε Machine.Run α) :=
  ⟨fun _ _ h => ⟨rfl, h⟩, fun _ => rfl⟩

theorem throw (error : ε) : Local (MonadExcept.throw error : ExceptT ε Machine.Run α) :=
  ⟨fun _ _ h => ⟨rfl, h⟩, fun _ => rfl⟩

theorem bind (h : Local action) (hnext : ∀ value, Local (next value)) : Local (action >>= next) := by
  constructor
  · intro machine other hsame
    obtain ⟨hresult, hfiles⟩ := h.agrees machine other hsame
    rw [run_bind, run_bind]
    generalize action.run.run machine = out at hresult hfiles ⊢
    generalize action.run.run other = out' at hresult hfiles ⊢
    obtain ⟨result, middle⟩ := out
    obtain ⟨result', middle'⟩ := out'
    cases hresult
    cases result with
    | ok value => exact (hnext value).agrees _ _ hfiles
    | error error => exact ⟨rfl, hfiles⟩
  · intro machine
    have hrequests := h.requests machine
    rw [run_bind]
    generalize action.run.run machine = out at hrequests ⊢
    obtain ⟨_ | value, middle⟩ := out
    · exact hrequests
    · exact ((hnext value).requests middle).trans hrequests

end Local

theorem local_settle (result : Except Trouble α) : Local (settle result : Task Machine.Run α) :=
  ⟨fun _ _ h => ⟨rfl, h⟩, fun _ => rfl⟩

theorem local_readFile (task : String) (path : Path) :
    Local (Settings.readFile task path : Task Machine.Run String) := by
  refine ⟨fun machine other hsame => ?_, fun _ => rfl⟩
  rw [run_readFile, run_readFile, hsame.1, hsame.2]
  exact ⟨rfl, hsame⟩

theorem local_boilerplate (settings : Settings) (path : Option Path) (standard : String) :
    Local (settings.boilerplate path standard : Task Machine.Run String) := by
  cases path with
  | none => exact .pure standard
  | some path => exact local_readFile _ _

theorem local_options (settings : Settings) :
    Local (settings.options : Task Machine.Run Theme.Options) :=
  (local_boilerplate settings _ _).bind fun _ => (local_boilerplate settings _ _).bind fun _ => .pure _

theorem local_note (entry : Entry) :
    Local (ExceptT.lift (Journal.note entry : Machine.Run Unit) : ExceptT ε Machine.Run Unit) :=
  ⟨fun _ _ h => ⟨rfl, h⟩, fun _ => rfl⟩

theorem run_makeDirectories (machine : Machine) (path : Path) :
    (Machine.makeDirectories path).run machine =
      ((machine.tree.makeDirectories machine.place path).1,
        { machine with tree := (machine.tree.makeDirectories machine.place path).2 }) :=
  rfl

theorem run_writeText (machine : Machine) (path : Path) (text : String) :
    (Machine.writeText path text).run machine =
      match machine.tree.writeText machine.place path text with
      | .ok tree => (.ok (), { machine with tree })
      | .error error => (.error error, machine) := by
  simp only [Machine.writeText, StateT.run_bind, StateT.run_get, pure_bind]
  cases machine.tree.writeText machine.place path text <;> rfl

def nextDelivery (machine : Machine) : Web.Delivery :=
  machine.deliveries.headD machine.ending

theorem run_exchange (request : Web.Request) (machine : Machine) :
    (Machine.exchange request).run machine = (nextDelivery machine,
      { machine with
        requests := machine.requests ++ [request], deliveries := machine.deliveries.tail }) := by
  obtain ⟨tree, directory, place, environment, deliveries, ending, requests, journal⟩ := machine
  cases deliveries <;> rfl

theorem local_makeDirectories (path : Path) :
    Local (ExceptT.lift (Files.Storage.makeDirectories path : Machine.Run _) :
      ExceptT ε Machine.Run _) := by
  refine ⟨fun machine other hsame => ?_, fun machine => rfl⟩
  obtain ⟨htree, hplace⟩ := hsame
  change _ = (Except.ok (other.tree.makeDirectories other.place path).1) ∧
    (_ = (other.tree.makeDirectories other.place path).2 ∧ _ = other.place)
  rw [← htree, ← hplace]
  exact ⟨rfl, rfl, rfl⟩

theorem local_writeText (path : Path) (text : String) :
    Local (ExceptT.lift (Files.Storage.writeText path text : Machine.Run _) :
      ExceptT ε Machine.Run _) := by
  have hrun : ∀ machine, (ExceptT.lift (Files.Storage.writeText path text : Machine.Run _) :
      ExceptT ε Machine.Run _).run.run machine = (.ok ((Machine.writeText path text).run machine).1,
        ((Machine.writeText path text).run machine).2) := run_lift _
  constructor
  · rintro machine other ⟨htree, hplace⟩
    rw [hrun, hrun, run_writeText, run_writeText, htree, hplace]
    cases other.tree.writeText other.place path text with
    | ok tree => exact ⟨rfl, rfl, rfl⟩
    | error error => exact ⟨rfl, htree, hplace⟩
  · intro machine
    rw [hrun, run_writeText]
    cases machine.tree.writeText machine.place path text <;> rfl

theorem local_prepareDirectory (target : Path) :
    Local (prepareDirectory target : ExceptT Failure Machine.Run Unit) := by
  unfold prepareDirectory
  split
  · exact .pure _
  · refine (local_makeDirectories _).bind fun made => ?_
    cases made with
    | ok value => exact .pure _
    | error error => exact .throw _

theorem local_writeThemeFile (root : Path) (file : Theme.GeneratedFile) :
    Local (writeThemeFile root file : ExceptT Failure Machine.Run Path) := by
  refine (local_prepareDirectory _).bind fun _ => (local_writeText _ _).bind fun stored => ?_
  cases stored with
  | ok value => exact (local_note _).bind fun _ => .pure _
  | error error => exact .throw _

theorem local_writeThemeFiles (root : Path) (files : List Theme.GeneratedFile) :
    Local (writeThemeFiles root files : ExceptT Failure Machine.Run (List Path)) := by
  induction files with
  | nil => exact .pure _
  | cons file files ih =>
    exact (local_writeThemeFile root file).bind fun _ => ih.bind fun _ => .pure _

def IsRegeneration (failure : Failure) : Prop :=
  ∃ cause, failure = .regeneration cause

section Raising

variable {σ : Type} [Host (StateM σ)]

theorem raises_prepareDirectory (target : Path) :
    Raises IsRegeneration (prepareDirectory target : ExceptT Failure (StateM σ) Unit) := by
  unfold prepareDirectory
  split
  · exact .pure _
  · refine (Raises.lift _).bind fun made => ?_
    cases made with
    | ok value => exact .pure _
    | error error => exact .throw ⟨_, rfl⟩

theorem raises_writeThemeFile (root : Path) (file : Theme.GeneratedFile) :
    Raises IsRegeneration (writeThemeFile root file : ExceptT Failure (StateM σ) Path) := by
  refine (raises_prepareDirectory _).bind fun _ => (Raises.lift _).bind fun stored => ?_
  cases stored with
  | ok value => exact (Raises.lift _).bind fun _ => .pure _
  | error error => exact .throw ⟨_, rfl⟩

theorem raises_writeThemeFiles (root : Path) (files : List Theme.GeneratedFile) :
    Raises IsRegeneration (writeThemeFiles root files : ExceptT Failure (StateM σ) (List Path)) := by
  induction files with
  | nil => exact .pure _
  | cons file files ih =>
    exact (raises_writeThemeFile root file).bind fun _ => ih.bind fun _ => .pure _

end Raising

def targetsOf (root : Path) (bundle : Theme.Bundle) : List Path :=
  bundle.files.map (root.join ·.path)

theorem run_writeTheme_eq {σ : Type} [Host (StateM σ)] (root : Path) (bundle : Theme.Bundle)
    (state : σ) :
    (writeTheme root bundle : StateM σ _).run state =
      (((writeThemeFiles root bundle.files : ExceptT Failure (StateM σ) _).run.run state).1.map
          Theme.WrittenFiles.mk,
        ((writeThemeFiles root bundle.files : ExceptT Failure (StateM σ) _).run.run state).2) := by
  unfold writeTheme
  rw [StateT.run_bind]
  generalize (writeThemeFiles root bundle.files : ExceptT Failure (StateM σ) _).run.run state = out
  obtain ⟨_ | _, _⟩ := out <;> rfl

theorem run_writeTheme_error {σ : Type} [Host (StateM σ)] {root : Path} {bundle : Theme.Bundle}
    {state after : σ} {failure : Failure}
    (h : (writeTheme root bundle : StateM σ _).run state = (.error failure, after)) :
    (writeThemeFiles root bundle.files : ExceptT Failure (StateM σ) _).run.run state =
      (.error failure, after) := by
  rw [run_writeTheme_eq] at h
  generalize (writeThemeFiles root bundle.files : ExceptT Failure (StateM σ) _).run.run state = out at h ⊢
  obtain ⟨error | targets, last⟩ := out
  · cases h
    rfl
  · cases h

theorem isRegeneration_of_writeTheme {σ : Type} [Host (StateM σ)] {root : Path}
    {bundle : Theme.Bundle} {state : σ} {failure : Failure}
    (h : ((writeTheme root bundle : StateM σ _).run state).1 = .error failure) :
    IsRegeneration failure :=
  raises_writeThemeFiles root bundle.files state failure
    (congrArg Prod.fst (run_writeTheme_error (Prod.ext h rfl)))

theorem run_writeTheme_iff {root : Path} {bundle : Theme.Bundle} {machine after : Machine}
    {written : Theme.WrittenFiles} :
    (writeTheme root bundle : Machine.Run _).run machine = (.ok written, after) ↔
      (writeThemeFiles root bundle.files : ExceptT Failure Machine.Run _).run.run machine =
        (.ok written.files, after) := by
  rw [run_writeTheme_eq]
  generalize (writeThemeFiles root bundle.files : ExceptT Failure Machine.Run _).run.run machine = out
  obtain ⟨_ | targets, last⟩ := out
  · constructor <;> (intro h; cases h)
  · constructor <;> (intro h; cases h; rfl)

end ThemeBlocks.Project

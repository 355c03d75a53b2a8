import ThemeBlocks.Proofs.Files.Frame
import ThemeBlocks.Proofs.Project.Runs
import ThemeBlocks.Schema.Download

/-! What a download leaves of the schema that was there. The file is written only if the reply carries
data, and then it holds that data. A reply whose data is null carries null. -/

namespace ThemeBlocks.Schema

open CommandLine (Outcome)
open Files (DiskError Location Path Tree)
open Files.Tree (Touched)
open Project (nextDelivery run_bind_of_ok run_exchange run_lift_of_run run_makeDirectories run_writeText)
open Web (Delivery Request)

/-- A complete reply of success that can be read carries the value of its member `data`. -/
inductive Carries : Delivery → Json.Value → Prop
  | data {status : Nat} {bytes : List UInt8} {reply schema : Json.Value} :
      200 ≤ status → status < 300 → Json.readAs Json.Shape.value (.ofBytes bytes) = .ok reply →
      reply.member? "data" = some schema → Carries (.answer status (some bytes)) schema

theorem schemaIn_eq_ok_iff {delivery : Delivery} {schema : Json.Value} :
    schemaIn delivery = .ok schema ↔ Carries delivery schema := by
  constructor
  · intro h
    cases delivery with
    | dropped => cases h
    | answer status body =>
      unfold schemaIn at h
      simp only [] at h
      split at h
      · next hsuccess =>
        cases body with
        | none => cases h
        | some bytes =>
          rw [Option.map_some] at h
          cases hread : Json.readAs Json.Shape.value (.ofBytes bytes) with
          | error failure =>
            rw [hread] at h
            cases h
          | ok reply =>
            rw [hread] at h
            cases hdata : reply.member? "data" with
            | none => simp [hdata] at h
            | some value =>
              simp only [hdata, Except.ok.injEq] at h
              subst h
              obtain ⟨hlow, hhigh⟩ := (Web.isSuccess_iff status).1 hsuccess
              exact .data hlow hhigh hread hdata
      · cases h
  · rintro ⟨hlow, hhigh, hread, hdata⟩
    unfold schemaIn
    simp [Web.isSuccess_iff, hlow, hhigh, hread, hdata]

theorem Carries.unique {delivery : Delivery} {schema other : Json.Value} (h : Carries delivery schema)
    (hother : Carries delivery other) : schema = other :=
  Except.ok.inj ((schemaIn_eq_ok_iff.2 h).symm.trans (schemaIn_eq_ok_iff.2 hother))

def valueNamed? (machine : Machine) (name : String) : Option String :=
  (machine.environment.find? (·.1 = name)).map (·.2)

def sent? (order : Order) (machine : Machine) : Option Request :=
  (order.url <|> valueNamed? machine Project.endpointVariable).bind fun url =>
    requestFor url (order.token <|> valueNamed? machine Project.tokenVariable)

theorem run_orVariable (value : Option String) (name : String) (machine : Machine) :
    (orVariable value name : Machine.Run _).run machine = (value <|> valueNamed? machine name, machine) := by
  cases value <;> rfl

theorem run_fetch (order : Order) (machine : Machine) :
    let out := (fetch order : ExceptT Problem Machine.Run _).run.run machine
    Project.SameFiles out.2 machine ∧
      ∀ schema, out.1 = .ok schema ↔
        (sent? order machine).isSome ∧ Carries (nextDelivery machine) schema := by
  unfold fetch sent?
  rw [run_bind_of_ok (run_lift_of_run (run_orVariable _ _ machine))]
  cases order.url <|> valueNamed? machine Project.endpointVariable with
  | none =>
    refine ⟨⟨rfl, rfl⟩, fun schema => ?_⟩
    constructor
    · rintro ⟨⟩
    · rintro ⟨⟨⟩, -⟩
  | some url =>
    simp only [Option.bind_some]
    rw [run_bind_of_ok (run_lift_of_run (run_orVariable _ _ machine))]
    cases requestFor url (order.token <|> valueNamed? machine Project.tokenVariable) with
    | none =>
      refine ⟨⟨rfl, rfl⟩, fun schema => ?_⟩
      constructor
      · rintro ⟨⟩
      · rintro ⟨⟨⟩, -⟩
    | some request =>
      have hexchange : (Web.Network.exchange request : Machine.Run _).run machine = _ :=
        run_exchange request machine
      simp only []
      rw [run_bind_of_ok (run_lift_of_run hexchange)]
      refine ⟨⟨rfl, rfl⟩, fun schema => ?_⟩
      rw [Option.isSome_some, ← schemaIn_eq_ok_iff]
      exact (and_iff_right rfl).symm

def prepared (tree : Tree) (place : Location) (path : Path) : Except DiskError Unit × Tree :=
  match path.parent? with
  | none => (.ok (), tree)
  | some parent =>
    if parent.text.isEmpty then (.ok (), tree) else tree.makeDirectories place parent

theorem touched_prepared (tree : Tree) (place : Location) (path : Path) :
    Touched place [path] tree (prepared tree place path).2 := by
  unfold prepared
  split
  · exact .refl tree
  · next parent hparent =>
    split
    · exact .refl tree
    · exact Tree.touched_makeDirectories (List.mem_singleton.2 rfl) hparent

/-- What can come of saving a text, and the tree that is left. -/
inductive Saved (place : Location) (path : Path) (text : String) (tree : Tree) :
    Except Problem Unit → Tree → Prop
  | unprepared {error : DiskError} {made : Tree} : prepared tree place path = (.error error, made) →
      Saved place path text tree (.error .directory) made
  | unwritten {error : DiskError} {made : Tree} : prepared tree place path = (.ok (), made) →
      made.writeText place path text = .error error → Saved place path text tree (.error .file) made
  | written {made after : Tree} : prepared tree place path = (.ok (), made) →
      made.writeText place path text = .ok after → Saved place path text tree (.ok ()) after

namespace Saved

variable {place : Location} {path : Path} {text : String} {tree after other : Tree}
  {result result' : Except Problem Unit}

theorem unique (h : Saved place path text tree result after)
    (hother : Saved place path text tree result' other) : result = result' ∧ after = other := by
  cases h <;> cases hother <;> simp_all

theorem touched (h : Saved place path text tree result after) : Touched place [path] tree after := by
  have hprepared := touched_prepared tree place path
  cases h with
  | unprepared hmade => rwa [hmade] at hprepared
  | unwritten hmade _ => rwa [hmade] at hprepared
  | written hmade hwritten =>
    rw [hmade] at hprepared
    exact hprepared.trans (Tree.touched_writeText (List.mem_singleton.2 rfl) hwritten)

theorem readText (h : Saved place path text tree (.ok ()) after) :
    after.readText place path = .ok text := by
  cases h with
  | written _ hwritten =>
    obtain ⟨target, hplace, hfile, -⟩ := Tree.writeText_spec hwritten
    exact Tree.readText_eq_ok_iff.2 ⟨target, hplace, hfile⟩

end Saved

theorem saved_store {machine : Machine} {path : Path} {made : Tree} (text : String)
    (h : prepared machine.tree machine.place path = (.ok (), made)) :
    let out := (ExceptT.lift (Files.Storage.writeText path text : Machine.Run _) >>= fun result =>
      settle (orElse Problem.file result)).run.run { machine with tree := made }
    Saved machine.place path text machine.tree out.1 out.2.tree := by
  have hwrite : (Files.Storage.writeText path text : Machine.Run _).run { machine with tree := made } = _ :=
    run_writeText _ path text
  rw [run_bind_of_ok (run_lift_of_run hwrite)]
  simp only []
  cases hstored : made.writeText machine.place path text with
  | error error => exact .unwritten h hstored
  | ok after => exact .written h hstored

theorem saved_run (path : Path) (schema : Json.Value) (machine : Machine) :
    let out := (save path schema : ExceptT Problem Machine.Run _).run.run machine
    Saved machine.place path (schema.pretty 0) machine.tree out.1 out.2.tree := by
  unfold save
  cases hparent : path.parent? with
  | none => exact saved_store _ (by simp [prepared, hparent])
  | some parent =>
    by_cases hempty : parent.text.isEmpty
    · simp only [hempty, if_true]
      exact saved_store _ (by simp [prepared, hparent, hempty])
    · have hprepared : prepared machine.tree machine.place path =
          machine.tree.makeDirectories machine.place parent := by
        simp [prepared, hparent, hempty]
      have hmake : (Files.Storage.makeDirectories parent : Machine.Run _).run machine = _ :=
        run_makeDirectories machine parent
      simp only [hempty, Bool.false_eq_true, if_false]
      rw [run_bind_of_ok (run_lift_of_run hmake)]
      generalize machine.tree.makeDirectories machine.place parent = out at hprepared ⊢
      obtain ⟨error | ⟨⟩, made⟩ := out
      · exact .unprepared hprepared
      · exact saved_store _ hprepared

/-- What can come of an order, and the tree that is left. -/
inductive Downloaded (order : Order) (machine : Machine) : Except Problem Json.Value → Tree → Prop
  | unfetched {problem : Problem} :
      (∀ schema, Carries (nextDelivery machine) schema → sent? order machine = none) →
      Downloaded order machine (.error problem) machine.tree
  | saved {schema : Json.Value} {result : Except Problem Unit} {after : Tree} :
      (sent? order machine).isSome → Carries (nextDelivery machine) schema →
      Saved machine.place order.output (schema.pretty 0) machine.tree result after →
      Downloaded order machine (result.map fun _ => schema) after

namespace Downloaded

variable {order : Order} {machine : Machine} {result : Except Problem Json.Value}
  {schema : Json.Value} {after : Tree}

theorem touched (h : Downloaded order machine result after) :
    Touched machine.place [order.output] machine.tree after := by
  cases h with
  | unfetched _ => exact .refl machine.tree
  | saved _ _ hsaved => exact hsaved.touched

theorem written (h : Downloaded order machine (.ok schema) after) :
    Carries (nextDelivery machine) schema ∧
      after.readText machine.place order.output = .ok (schema.pretty 0) := by
  generalize hresult : Except.ok schema = result at h
  cases h with
  | unfetched _ => cases hresult
  | @saved came saving _ _ hcarries hsaved =>
    cases saving with
    | error problem => cases hresult
    | ok =>
      cases hresult
      exact ⟨hcarries, hsaved.readText⟩

theorem fails_of_none (h : Downloaded order machine result after)
    (hnone : ∀ schema, ¬ Carries (nextDelivery machine) schema) :
    (∃ problem, result = .error problem) ∧ after = machine.tree := by
  cases h with
  | unfetched _ => exact ⟨⟨_, rfl⟩, rfl⟩
  | saved _ hcarries _ => exact absurd hcarries (hnone _)

theorem fails_iff_of_carries (h : Downloaded order machine result after)
    (hcarries : Carries (nextDelivery machine) schema) :
    (∃ problem, result = .error problem) ∧ after = machine.tree ↔
      ((sent? order machine).isSome → ∃ problem, Saved machine.place order.output (schema.pretty 0)
        machine.tree (.error problem) machine.tree) := by
  cases h with
  | unfetched hunsent =>
    refine ⟨fun _ hsent => ?_, fun _ => ⟨⟨_, rfl⟩, rfl⟩⟩
    rw [hunsent schema hcarries] at hsent
    cases hsent
  | @saved came saving _ hsent hcame hsaved =>
    obtain rfl := hcame.unique hcarries
    constructor
    · rintro ⟨⟨problem, hproblem⟩, rfl⟩ _
      cases saving with
      | error problem => exact ⟨problem, hsaved⟩
      | ok => cases hproblem
    · intro hfails
      obtain ⟨problem, hfailed⟩ := hfails hsent
      obtain ⟨rfl, rfl⟩ := hsaved.unique hfailed
      exact ⟨⟨problem, rfl⟩, rfl⟩

end Downloaded

theorem downloaded_run (order : Order) (machine : Machine) :
    let out := (download order : ExceptT Problem Machine.Run _).run.run machine
    Downloaded order machine out.1 out.2.tree := by
  obtain ⟨⟨htree, hplace⟩, hfetch⟩ := run_fetch order machine
  generalize hfetched : (fetch order : ExceptT Problem Machine.Run _).run.run machine = fetched
    at htree hplace hfetch
  obtain ⟨problem | schema, middle⟩ := fetched
  · have hrun : (download order : ExceptT Problem Machine.Run _).run.run machine =
        (.error problem, middle) := by
      unfold download
      rw [Project.run_bind, hfetched]
    rw [hrun]
    change Downloaded order machine (.error problem) middle.tree
    rw [show middle.tree = machine.tree from htree]
    refine .unfetched fun schema hcarries => ?_
    by_contra hsent
    cases (hfetch schema).2 ⟨Option.isSome_iff_ne_none.2 hsent, hcarries⟩
  · obtain ⟨hsent, hcarries⟩ := (hfetch schema).1 rfl
    have hsaved := saved_run order.output schema middle
    rw [show middle.tree = machine.tree from htree, show middle.place = machine.place from hplace] at hsaved
    unfold download
    rw [run_bind_of_ok hfetched, Project.run_bind]
    generalize (save order.output schema : ExceptT Problem Machine.Run _).run.run middle = saved at hsaved ⊢
    obtain ⟨problem | ⟨⟩, last⟩ := saved
    · exact .saved hsent hcarries hsaved
    · exact .saved hsent hcarries hsaved

theorem runOrder_spec (order : Order) (machine : Machine) :
    let out := (runOrder order : Machine.Run _).run machine
    ∃ result, Downloaded order machine result out.2.tree ∧
      ((∃ problem, result = .error problem) ↔ out.1.code = 1 ∧ out.1.output = startLine) ∧
      ((∃ schema, result = .ok schema) ↔ out.1.code = 0) := by
  have hdownloaded := downloaded_run order machine
  unfold runOrder
  rw [StateT.run_bind]
  generalize (download order : ExceptT Problem Machine.Run _).run.run machine = out at hdownloaded ⊢
  obtain ⟨problem | schema, last⟩ := out
  · refine ⟨_, hdownloaded, ⟨fun _ => ⟨rfl, rfl⟩, fun _ => ⟨problem, rfl⟩⟩, ?_⟩
    constructor
    · rintro ⟨_, ⟨⟩⟩
    · rintro ⟨⟩
  · refine ⟨_, hdownloaded, ?_, fun _ => rfl, fun _ => ⟨schema, rfl⟩⟩
    constructor
    · rintro ⟨_, ⟨⟩⟩
    · rintro ⟨⟨⟩, -⟩

/-- A schema that is there is written over by data that came, and by nothing else. -/
structure Keeps (order : Order) (machine : Machine) (outcome : Outcome) (after : Tree) : Prop where
  kept : (∀ schema, Carries (nextDelivery machine) schema → schema = .null) →
    (outcome.code = 1 ∧ outcome.output = startLine) ∧ after = machine.tree
  replaced : ∀ schema, Carries (nextDelivery machine) schema → schema ≠ .null → outcome.code = 0 →
    after.readText machine.place order.output = .ok (schema.pretty 0) ∧
      Touched machine.place [order.output] machine.tree after

/-- Whatever came, a file that is written holds the data of the reply, and nothing else is touched. The
schema that was there is kept unless null came, was asked for, and left its trace on the files. -/
theorem runOrder_keeps_iff (order : Order) (machine : Machine) :
    let out := (runOrder order : Machine.Run _).run machine
    (Keeps order machine out.1 out.2.tree ↔
      (Carries (nextDelivery machine) .null → (sent? order machine).isSome →
        ∃ problem, Saved machine.place order.output (Json.Value.null.pretty 0) machine.tree
          (.error problem) machine.tree)) ∧
    (out.1.code = 0 → ∃ schema, Carries (nextDelivery machine) schema ∧
      out.2.tree.readText machine.place order.output = .ok (schema.pretty 0)) ∧
    Touched machine.place [order.output] machine.tree out.2.tree := by
  obtain ⟨result, hdownloaded, hfails, hsucceeds⟩ := runOrder_spec order machine
  intro out
  have hwritten : out.1.code = 0 → ∃ schema, Carries (nextDelivery machine) schema ∧
      out.2.tree.readText machine.place order.output = .ok (schema.pretty 0) := by
    intro hcode
    obtain ⟨schema, rfl⟩ := hsucceeds.2 hcode
    exact ⟨schema, hdownloaded.written⟩
  refine ⟨⟨fun hkeeps hnull => ?_, fun hnull => ⟨fun hall => ?_, ?_⟩⟩, hwritten, hdownloaded.touched⟩
  · obtain ⟨hcode, htree⟩ := hkeeps.kept fun schema hcarries => hcarries.unique hnull
    exact (hdownloaded.fails_iff_of_carries hnull).1 ⟨hfails.2 hcode, htree⟩
  · have hfailed : (∃ problem, result = .error problem) ∧ out.2.tree = machine.tree := by
      by_cases hcarries : Carries (nextDelivery machine) .null
      · exact (hdownloaded.fails_iff_of_carries hcarries).2 (hnull hcarries)
      · apply hdownloaded.fails_of_none
        intro schema hschema
        exact hcarries (hall schema hschema ▸ hschema)
    exact ⟨hfails.1 hfailed.1, hfailed.2⟩
  · intro schema hcarries _ hcode
    obtain ⟨came, hcame, htext⟩ := hwritten hcode
    obtain rfl := hcame.unique hcarries
    exact ⟨htext, hdownloaded.touched⟩

def priorSchema : Machine where
  tree := ⟨[(["schema.json"], .file "\x7b\x7d")]⟩
  directory := ⟨"/"⟩
  place := []
  deliveries := [.answer 200 (some "\x7b\"data\":null\x7d".toUTF8.toList)]

theorem priorSchema_replaced :
    let out := (runOrder { url := some "http://a/graphql" } : Machine.Run _).run priorSchema
    ¬ Keeps { url := some "http://a/graphql" } priorSchema out.1 out.2.tree ∧
      out.2.tree.readText [] ⟨"schema.json"⟩ = .ok "null" := by
  have hrun : let out := (runOrder { url := some "http://a/graphql" } : Machine.Run _).run priorSchema
      out.1.code = 0 ∧ out.2.tree.readText [] ⟨"schema.json"⟩ = .ok "null" := by decide +kernel
  refine ⟨fun hkeeps => ?_, hrun.2⟩
  have hread : Json.readAs Json.Shape.value
      (.ofBytes "\x7b\"data\":null\x7d".toUTF8.toList) = .ok (.object [("data", .null)]) := by
    with_unfolding_all rfl
  have hnull : ∀ schema, Carries (nextDelivery priorSchema) schema → schema = .null := by
    intro schema hschema
    exact hschema.unique (.data (by decide) (by decide) hread rfl)
  have hcode := (hkeeps.kept hnull).1.1
  rw [hrun.1] at hcode
  cases hcode

end ThemeBlocks.Schema

import ThemeBlocks.Proofs.Block.Accepted
import ThemeBlocks.Sync.Drift

/-! What a run of the drift detector does to the two ends of its gateway. Its acts are the queries with
their answers and the bundles with their receipts, in order. Whatever the gateway is, a run takes one of
six courses, and the course tells the acts as well as the result. -/

namespace ThemeBlocks.Sync

open Cms

abbrev Answer := Except FetchError Response

abbrev Receipt := Except Failure Theme.WrittenFiles

inductive Act
  | asked (query : String) (answer : Answer)
  | handed (bundle : Theme.Bundle) (receipt : Receipt)

theorem run_bind {σ α β : Type} (action : Running (StateM σ) α) (next : α → Running (StateM σ) β)
    (state : State) (world : σ) :
    ((action >>= next).run.run state).run world =
      match (action.run.run state).run world with
      | ((.ok value, state), world) => ((next value).run.run state).run world
      | ((.error failure, state), world) => ((.error failure, state), world) := by
  rw [ExceptT.run_bind, StateT.run_bind, StateT.run_bind]
  generalize (action.run.run state).run world = out
  obtain ⟨⟨_ | _, _⟩, _⟩ := out <;> rfl

section Acts

variable {σ : Type} [Journal (StateM σ)]

/-- The second world comes from the first by these acts; notes do not count as acts. -/
inductive Happens (gateway : Gateway (StateM σ)) (start : σ) : List Act → σ → Prop
  | idle : Happens gateway start [] start
  | noted {acts : List Act} {world : σ} (entry : Entry) : Happens gateway start acts world →
      Happens gateway start acts ((Journal.note entry : StateM σ Unit).run world).2
  | asked {acts : List Act} {world : σ} (query : String) : Happens gateway start acts world →
      Happens gateway start (acts ++ [.asked query ((gateway.fetch query).run world).1])
        ((gateway.fetch query).run world).2
  | handed {acts : List Act} {world : σ} (bundle : Theme.Bundle) :
      Happens gateway start acts world →
      Happens gateway start (acts ++ [.handed bundle ((gateway.write bundle).run world).1])
        ((gateway.write bundle).run world).2

variable {gateway : Gateway (StateM σ)}

theorem Happens.trans {start middle last : σ} {acts more : List Act}
    (hf : Happens gateway start acts middle) (hb : Happens gateway middle more last) :
    Happens gateway start (acts ++ more) last := by
  induction hb with
  | idle => simpa using hf
  | noted entry _ ih => exact .noted entry ih
  | asked query _ ih =>
    rw [← List.append_assoc]
    exact .asked query ih
  | handed bundle _ ih =>
    rw [← List.append_assoc]
    exact .handed bundle ih

theorem exists_world_of_handed {start last : σ} {acts : List Act} {bundle : Theme.Bundle}
    {receipt : Receipt} (h : Happens gateway start acts last) (hmem : .handed bundle receipt ∈ acts) :
    ∃ world, ((gateway.write bundle).run world).1 = receipt := by
  induction h with
  | idle => simp at hmem
  | noted entry _ ih => exact ih hmem
  | asked query _ ih => exact ih (by simpa using hmem)
  | @handed acts world other _ ih =>
    rcases List.mem_append.1 hmem with hearlier | hlast
    · exact ih hearlier
    · obtain ⟨rfl, rfl⟩ : bundle = other ∧ receipt = _ := by simpa using hlast
      exact ⟨world, rfl⟩

variable {α β : Type}

/-- From every state and world, the action's acts and result are related like this. -/
def Does (gateway : Gateway (StateM σ)) (action : Running (StateM σ) α)
    (post : List Act → Except Failure α → Prop) : Prop :=
  ∀ state world, ∃ acts, Happens gateway world acts ((action.run.run state).run world).2 ∧
    post acts ((action.run.run state).run world).1.1

namespace Does

variable {action : Running (StateM σ) α} {next : α → Running (StateM σ) β}
  {post : List Act → Except Failure α → Prop} {after : List Act → Except Failure β → Prop}

theorem pure {value : α} (h : post [] (.ok value)) :
    Does gateway (Pure.pure value : Running (StateM σ) α) post :=
  fun _ _ => ⟨[], .idle, h⟩

theorem throw {failure : Failure} (h : post [] (.error failure)) :
    Does gateway (MonadExcept.throw failure : Running (StateM σ) α) post :=
  fun _ _ => ⟨[], .idle, h⟩

theorem bind (hx : Does gateway action post)
    (hok : ∀ acts value, post acts (.ok value) →
      Does gateway (next value) fun more result => after (acts ++ more) result)
    (herror : ∀ acts failure, post acts (.error failure) → after acts (.error failure)) :
    Does gateway (action >>= next) after := by
  intro state world
  obtain ⟨acts, hacts, hpost⟩ := hx state world
  rw [run_bind]
  generalize (action.run.run state).run world = out at hacts hpost ⊢
  obtain ⟨⟨result, state⟩, world⟩ := out
  cases result with
  | error failure => exact ⟨acts, hacts, herror acts failure hpost⟩
  | ok value =>
    obtain ⟨more, hmore, hafter⟩ := hok acts value hpost state world
    exact ⟨acts ++ more, hacts.trans hmore, hafter⟩

theorem mono {weaker : List Act → Except Failure α → Prop} (hx : Does gateway action post)
    (h : ∀ acts result, post acts result → weaker acts result) : Does gateway action weaker := by
  intro state world
  obtain ⟨acts, hacts, hpost⟩ := hx state world
  exact ⟨acts, hacts, h acts _ hpost⟩

end Does

def Yields (gateway : Gateway (StateM σ)) (action : Running (StateM σ) α) (result : Except Failure α) :
    Prop :=
  Does gateway action fun acts given => acts = [] ∧ given = result

theorem Yields.bind {action : Running (StateM σ) α} {next : α → Running (StateM σ) β} {value : α}
    {after : List Act → Except Failure β → Prop} (hx : Yields gateway action (.ok value))
    (hnext : Does gateway (next value) after) : Does gateway (action >>= next) after := by
  refine Does.bind hx (fun acts given h => ?_) fun acts failure h => ?_
  · obtain ⟨rfl, hgiven⟩ := h
    cases hgiven
    exact hnext
  · cases h.2

theorem Yields.fail {action : Running (StateM σ) α} {next : α → Running (StateM σ) β}
    {failure : Failure} {after : List Act → Except Failure β → Prop}
    (hx : Yields gateway action (.error failure)) (h : after [] (.error failure)) :
    Does gateway (action >>= next) after := by
  refine Does.bind hx (fun acts given hgiven => ?_) fun acts given hgiven => ?_
  · cases hgiven.2
  · obtain ⟨rfl, hgiven⟩ := hgiven
    cases hgiven
    exact h

theorem yields_note (entry : Entry) : Yields gateway (note entry) (.ok ()) :=
  fun _ _ => ⟨[], .noted entry .idle, rfl, rfl⟩

theorem yields_noteAll (entries : List Entry) : Yields gateway (ask (noteAll entries)) (.ok ()) := by
  induction entries with
  | nil => exact fun _ _ => ⟨[], .idle, rfl, rfl⟩
  | cons entry entries ih =>
    intro state world
    obtain ⟨acts, hacts, rfl, hresult⟩ := ih state ((Journal.note entry : StateM σ Unit).run world).2
    exact ⟨[], (Happens.noted entry .idle).trans hacts, rfl, hresult⟩

theorem yields_moveTo (next : State) : Yields gateway (moveTo next) (.ok ()) :=
  fun _ _ => ⟨[], .noted _ .idle, rfl, rfl⟩

theorem does_fetch (query : String) :
    Does gateway (ask (gateway.fetch query)) fun acts result =>
      ∃ answer, acts = [.asked query answer] ∧ result = .ok answer :=
  fun _ _ => ⟨[_], .asked query .idle, _, rfl, rfl⟩

theorem does_write (bundle : Theme.Bundle) :
    Does gateway (ask (gateway.write bundle)) fun acts result =>
      ∃ receipt, acts = [.handed bundle receipt] ∧ result = .ok receipt :=
  fun _ _ => ⟨[_], .handed bundle .idle, _, rfl, rfl⟩

theorem yields_decode (gateway : Gateway (StateM σ)) (response : Response) :
    Yields gateway (decode response)
      ((Snapshot.decode (response.data.getD .null)).mapError Failure.fetch) := by
  unfold decode
  cases Snapshot.decode (response.data.getD .null) with
  | error error => exact Does.throw ⟨rfl, rfl⟩
  | ok decoded => exact (yields_noteAll _).bind (Does.pure ⟨rfl, rfl⟩)

theorem yields_finish (snapshot : Snapshot) (warnings : List Warning) (resolution : Resolution) :
    Yields gateway (finish snapshot warnings resolution) (.ok ⟨snapshot, resolution, warnings⟩) :=
  (yields_moveTo _).bind ((yields_note _).bind (Does.pure ⟨rfl, rfl⟩))

variable (plan : Plan)

theorem does_regenerate :
    Does gateway (regenerate gateway plan) fun acts result =>
      acts = [.handed (.ofRegistry plan.registry plan.options) result] := by
  refine (yields_note _).bind (Does.bind (does_write _) ?_ ?_)
  · rintro acts receipt ⟨_, rfl, hreceipt⟩
    cases hreceipt
    cases receipt with
    | error failure => exact Does.throw rfl
    | ok written => exact (yields_note _).bind (Does.pure rfl)
  · rintro acts failure ⟨_, -, h⟩
    cases h

end Acts

inductive Fallback (plan : Plan) : List Act → Except Failure Context → Prop
  | unreachable {answer : Answer} {useless : FetchError ⊕ Response} :
      usable answer = .error useless →
      Fallback plan [.asked plan.template.minimalQuery answer] (.error (unreachable useless))
  | unreadable {answer : Answer} {response : Response} {error : FetchError} :
      usable answer = .ok response → Snapshot.decode (response.data.getD .null) = .error error →
      Fallback plan [.asked plan.template.minimalQuery answer] (.error (.fetch error))
  | refused {answer : Answer} {response : Response} {decoded : Snapshot × List Warning}
      {failure : Failure} :
      usable answer = .ok response → Snapshot.decode (response.data.getD .null) = .ok decoded →
      Fallback plan [.asked plan.template.minimalQuery answer,
        .handed (.ofRegistry plan.registry plan.options) (.error failure)] (.error failure)
  | regenerated {answer : Answer} {response : Response} {decoded : Snapshot × List Warning}
      {written : Theme.WrittenFiles} :
      usable answer = .ok response → Snapshot.decode (response.data.getD .null) = .ok decoded →
      Fallback plan [.asked plan.template.minimalQuery answer,
        .handed (.ofRegistry plan.registry plan.options) (.ok written)]
        (.ok ⟨decoded.1, .degraded written, decoded.2⟩)

inductive Course (plan : Plan) (query : String) : List Act → Except Failure Context → Prop
  | full {answer : Answer} {response : Response} {decoded : Snapshot × List Warning} :
      usable answer = .ok response → Snapshot.decode (response.data.getD .null) = .ok decoded →
      Course plan query [.asked query answer] (.ok ⟨decoded.1, .full, decoded.2⟩)
  | unreadable {answer : Answer} {response : Response} {error : FetchError} :
      usable answer = .ok response → Snapshot.decode (response.data.getD .null) = .error error →
      Course plan query [.asked query answer] (.error (.fetch error))
  | fallback {answer : Answer} {useless : FetchError ⊕ Response} {acts : List Act}
      {result : Except Failure Context} :
      usable answer = .error useless → Fallback plan acts result →
      Course plan query (.asked query answer :: acts) result

section Courses

variable {σ : Type} [Journal (StateM σ)] (gateway : Gateway (StateM σ)) (plan : Plan)

theorem does_runMinimal : Does gateway (runMinimal gateway plan) (Fallback plan) := by
  refine (yields_moveTo _).bind (Does.bind (does_fetch _) ?_ ?_)
  · rintro acts answer ⟨_, rfl, hanswer⟩
    cases hanswer
    cases husable : usable answer with
    | error useless => exact Does.throw (.unreachable husable)
    | ok response =>
      have hyields := yields_decode gateway response
      cases hdecode : Snapshot.decode (response.data.getD .null) with
      | error error =>
        rw [hdecode] at hyields
        exact hyields.fail (.unreadable husable hdecode)
      | ok decoded =>
        rw [hdecode] at hyields
        refine hyields.bind (Does.bind (does_regenerate plan) ?_ ?_)
        · rintro _ written rfl
          refine (yields_finish _ _ _).mono ?_
          rintro _ _ ⟨rfl, rfl⟩
          exact .regenerated husable hdecode
        · rintro _ failure rfl
          exact .refused husable hdecode
  · rintro acts failure ⟨_, -, h⟩
    cases h


theorem fullQuery_eq_ok : ∃ query, plan.template.fullQuery plan.registry = .ok query := by
  simp only [Query.Template.fullQuery, Query.build, plan.registry.checkTypes_blocks]
  by_cases h : plan.registry.blocks.isEmpty
  · exact ⟨_, by simp only [h]; rfl⟩
  · exact ⟨_, by simp only [h]; rfl⟩

variable {plan} in
theorem does_run {query : String} (hquery : plan.template.fullQuery plan.registry = .ok query) :
    Does gateway (run gateway plan) (Course plan query) := by
  unfold run
  rw [hquery]
  refine (yields_moveTo _).bind (Does.bind (does_fetch _) ?_ ?_)
  · rintro acts answer ⟨_, rfl, hanswer⟩
    cases hanswer
    cases husable : usable answer with
    | error useless =>
      refine (yields_note _).bind ((does_runMinimal gateway plan).mono ?_)
      exact fun acts result h => .fallback husable h
    | ok response =>
      have hyields := yields_decode gateway response
      cases hdecode : Snapshot.decode (response.data.getD .null) with
      | error error =>
        rw [hdecode] at hyields
        exact hyields.fail (.unreadable husable hdecode)
      | ok decoded =>
        rw [hdecode] at hyields
        refine hyields.bind ((yields_finish _ _ _).mono ?_)
        rintro _ _ ⟨rfl, rfl⟩
        exact .full husable hdecode
  · rintro acts failure ⟨_, -, h⟩
    cases h

end Courses

end ThemeBlocks.Sync

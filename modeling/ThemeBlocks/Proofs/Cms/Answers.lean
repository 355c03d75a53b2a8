import ThemeBlocks.Proofs.Project.Agreement
import ThemeBlocks.Proofs.Text.Trimmed

/-! What becomes of a query. One request goes out, and what comes back decides between a response, a
reply that cannot be read and a reply that refuses. A refusal tells what the server said. -/

namespace ThemeBlocks.Cms

open Text (IsTrimmed isBlank isBlankText)
open Web (Delivery)

variable {called : Option String} {body message : String} {status : Nat}

/-- A message tells a body: the text between the blanks around it, or the start of a long one, or, where
there is nothing to be seen, what the status is called. -/
inductive Tells (called : Option String) (body : String) : String → Prop
  | whole {told : List Char} : IsTrimmed isBlank body.toList told → told ≠ [] → told.length ≤ 200 →
      Tells called body (.ofList told)
  | start {told : List Char} : IsTrimmed isBlank body.toList told → 200 < told.length →
      Tells called body (.ofList (told.take 200) ++ "...")
  | reason {message : String} : isBlankText body → called = some message → Tells called body message

theorem not_blank_of_head? {text told : List Char} (h : IsTrimmed isBlank text told) (hne : told ≠ [])
    (hhead : message.toList.head? = told.head?) : isBlankText message = false := by
  obtain ⟨c, rest, rfl⟩ := List.exists_cons_of_ne_nil hne
  unfold isBlankText
  rw [List.all_eq_false]
  exact ⟨c, List.mem_of_head? hhead, by simp [h.first c rfl]⟩

theorem Tells.not_blank (h : Tells called body message)
    (hcalled : ∀ reason, called = some reason → isBlankText reason = false) :
    isBlankText message = false := by
  cases h with
  | whole htrimmed hne _ => exact not_blank_of_head? htrimmed hne (by simp)
  | @start told htrimmed hlong =>
    cases told with
    | nil => simp at hlong
    | cons c rest => exact not_blank_of_head? htrimmed (List.cons_ne_nil c rest) (by simp)
  | reason _ hreason => exact hcalled message hreason

theorem Tells.reason_of_blank (h : Tells called body message) (hblank : isBlankText body) :
    called = some message := by
  have hnil : ∀ {told : List Char}, IsTrimmed isBlank body.toList told → told = [] :=
    fun htrimmed => htrimmed.eq_nil_iff.2 (List.all_eq_true.1 hblank)
  cases h with
  | whole htrimmed hne _ => exact absurd (hnil htrimmed) hne
  | start htrimmed hlong =>
    rw [hnil htrimmed] at hlong
    simp at hlong
  | reason _ hreason => exact hreason

/-- What a failure calls a status; one that has no standard reason is a failed request. -/
def reasonFor (status : Nat) : String :=
  (Web.reason? status).getD "request failed"

theorem reasonFor_not_blank (status : Nat) : isBlankText (reasonFor status) = false := by
  have hreasons : ∀ entry ∈ Web.reasons, isBlankText entry.2 = false := by decide +kernel
  unfold reasonFor Web.reason?
  cases hfind : Web.reasons.find? (·.1 = status) with
  | none => decide
  | some entry => exact hreasons entry (List.mem_of_find?_eq_some hfind)

theorem tells_summary (body : String) (status : Nat) :
    Tells (some (reasonFor status)) body (Client.summary body status) := by
  have htrimmed : IsTrimmed isBlank body.toList (Text.trim body).toList := by
    rw [Text.trim, String.toList_ofList]
    exact Text.isTrimmed_trimWhere isBlank body.toList
  unfold Client.summary
  simp only []
  split
  · next hempty =>
    refine .reason ?_ rfl
    exact List.all_eq_true.2 (htrimmed.eq_nil_iff.1 (List.isEmpty_iff.1 hempty))
  · next hempty =>
    split
    · next hlong => exact .start htrimmed hlong
    · next hshort => exact .whole htrimmed (mt List.isEmpty_iff.2 hempty) (Nat.le_of_not_lt hshort)

example : Client.summary "  " 502 = "Bad Gateway" := by decide

def arrivedText (body : Option (List UInt8)) : String :=
  (body.map Text.decodeBytes).getD ""

/-- The result is what the delivery means, if `called` says what a status is called. -/
structure Answered (called : Nat → Option String) (delivery : Delivery)
    (result : Except FetchError Response) : Prop where
  response : ∀ response, result = .ok response ↔ ∃ status bytes,
    delivery = .answer status (some bytes) ∧ (200 ≤ status ∧ status < 300) ∧
      Response.ofSource (.ofBytes bytes) = .ok response
  unreadable : ∀ status body, delivery = .answer status body → 200 ≤ status ∧ status < 300 →
    (∀ bytes response, body = some bytes → Response.ofSource (.ofBytes bytes) ≠ .ok response) →
      ∃ message, result = .error (.unreadable message)
  refused : ∀ status body, delivery = .answer status body → ¬ (200 ≤ status ∧ status < 300) →
    ∃ message, result = .error (.transport (some status) message) ∧
      Tells (called status) (arrivedText body) message ∧ isBlankText message = false
  dropped : delivery = .dropped → ∃ message, result = .error (.transport none message)

section Interpret

variable (url : Web.Url)

theorem interpret_cutOff (h : Web.isSuccess status) :
    Client.interpret url (.answer status none) = .error (.unreadable Web.brokenBody) :=
  if_pos h

theorem interpret_success (bytes : List UInt8) (h : Web.isSuccess status) :
    Client.interpret url (.answer status (some bytes)) =
      (Response.ofSource (.ofBytes bytes)).mapError .unreadable := by
  refine (if_pos h).trans ?_
  cases Response.ofSource (.ofBytes bytes) <;> rfl

theorem interpret_refusal (body : Option (List UInt8)) (h : ¬ Web.isSuccess status) :
    Client.interpret url (.answer status body) =
      .error (.transport (some status) (Client.summary (arrivedText body) status)) := by
  refine (if_neg h).trans ?_
  cases body <;> rfl

theorem interpret_eq_ok_iff (delivery : Delivery) (response : Response) :
    Client.interpret url delivery = .ok response ↔ ∃ status bytes,
      delivery = .answer status (some bytes) ∧ (200 ≤ status ∧ status < 300) ∧
        Response.ofSource (.ofBytes bytes) = .ok response := by
  constructor
  · intro h
    cases delivery with
    | dropped => cases h
    | answer status body =>
      by_cases hsuccess : Web.isSuccess status
      · cases body with
        | none =>
          rw [interpret_cutOff url hsuccess] at h
          cases h
        | some bytes =>
          refine ⟨status, bytes, rfl, (Web.isSuccess_iff status).1 hsuccess, ?_⟩
          rw [interpret_success url bytes hsuccess] at h
          cases hread : Response.ofSource (.ofBytes bytes) with
          | ok other =>
            rw [hread] at h
            cases h
            rfl
          | error message =>
            rw [hread] at h
            cases h
      · rw [interpret_refusal url body hsuccess] at h
        cases h
  · rintro ⟨status, bytes, rfl, hsuccess, hread⟩
    rw [interpret_success url bytes ((Web.isSuccess_iff status).2 hsuccess), hread]
    rfl

theorem answered_interpret (delivery : Delivery) :
    Answered (fun status => some (reasonFor status)) delivery (Client.interpret url delivery) := by
  refine ⟨interpret_eq_ok_iff url delivery, ?_, ?_, ?_⟩
  · rintro status body rfl hsuccess hbody
    have hcode := (Web.isSuccess_iff status).2 hsuccess
    cases body with
    | none => exact ⟨_, interpret_cutOff url hcode⟩
    | some bytes =>
      rw [interpret_success url bytes hcode]
      cases hread : Response.ofSource (.ofBytes bytes) with
      | ok response => exact absurd hread (hbody bytes response rfl)
      | error message => exact ⟨message, rfl⟩
  · rintro status body rfl hrefused
    have htells := tells_summary (arrivedText body) status
    refine ⟨_, interpret_refusal url body (mt (Web.isSuccess_iff status).1 hrefused), htells, ?_⟩
    apply htells.not_blank
    rintro _ ⟨⟩
    exact reasonFor_not_blank status
  · rintro rfl
    exact ⟨_, rfl⟩

end Interpret

/-- A query whose endpoint can be reached is sent once, as it is, and the result is what the delivery
means. A status without a standard reason is called a failed request. -/
theorem fetch_answered (client : Client) (query : String) (machine : Machine) :
    let out := (client.fetch query : Machine.Run _).run machine
    (Web.isReachable client.endpoint →
      out.2.requests = machine.requests ++ [client.request query] ∧
      Json.treeOf (client.request query).body =
        .ok (.object [("query", .string query), ("variables", .object [])]) ∧
      Answered (fun status => some (reasonFor status)) (Project.nextDelivery machine) out.1) ∧
    (¬ Web.isReachable client.endpoint →
      out.2.requests = machine.requests ∧ ∃ message, out.1 = .error (.transport none message)) := by
  intro out
  constructor
  · intro h
    obtain ⟨journal, hrun⟩ := Project.run_fetch_of_reachable h query machine
    rw [show out = _ from hrun]
    exact ⟨rfl, Project.treeOf_requestBody query, answered_interpret client.endpoint _⟩
  · intro h
    rw [show out = _ from Project.run_fetch_of_not_reachable h query machine]
    exact ⟨rfl, _, rfl⟩

/-- A machine whose next request is refused with a status that has no standard reason, and no body. -/
def unnamedRefusal : Machine where
  directory := ⟨"/"⟩
  place := []
  deliveries := [.answer 599 (some [])]

def plainClient : Client where
  endpoint := { scheme := "http", authority := some { host := .name "a" }, path := .segments [""] }

theorem unnamedRefusal_untold :
    ¬ Answered Web.reason? (Project.nextDelivery unnamedRefusal)
      ((plainClient.fetch "\x7b a \x7d" : Machine.Run _).run unnamedRefusal).1 := by
  intro h
  obtain ⟨message, -, htells, -⟩ := h.refused 599 (some []) rfl (by decide)
  cases htells.reason_of_blank (by decide)

end ThemeBlocks.Cms

import SmbExchange.Proofs.Session.Operation
import SmbExchange.Proofs.Session.Sending

/-!
# Multiplex ids

The counter of the multiplex ids is a word that wraps around.  Whoever draws an
id fetches from the counter until it does not show zero, which takes two fetches
at most.  Nothing else that is done with a session touches the counter, so the
ids of a session go round from one to 65535 and leave out zero, however many are
drawn and whatever happens between the draws.
-/

namespace SmbExchange

namespace Session

variable {τ : Type}

/-! ## Drawing one id -/

/-- Takes what the counter shows, and moves the counter on. -/
def fetchMultiplexId (session : Session τ) : UInt16 × Session τ :=
  (session.nextMultiplexId,
    { session with nextMultiplexId := session.nextMultiplexId + 1 })

/-- An id is drawn in a number of fetches: where zero is fetched, it is tried again. -/
inductive Draws : (session : Session τ) → (fetches : Nat) → (id : UInt16) →
    (after : Session τ) → Prop where
  | found {session : Session τ} (hid : session.fetchMultiplexId.1 ≠ 0) :
    Draws session 1 session.fetchMultiplexId.1 session.fetchMultiplexId.2
  | again {session after : Session τ} {fetches : Nat} {id : UInt16}
    (hzero : session.fetchMultiplexId.1 = 0)
    (hrest : Draws session.fetchMultiplexId.2 fetches id after) :
    Draws session (fetches + 1) id after

section Loop

variable {session after : Session τ} {fetches : Nat} {id : UInt16}

theorem drawMultiplexId_of_ne_zero (hcounter : session.nextMultiplexId ≠ 0) :
    session.drawMultiplexId = session.fetchMultiplexId := by
  rw [drawMultiplexId, if_neg hcounter, fetchMultiplexId]

/-- Behind a zero the counter shows one. -/
theorem nextMultiplexId_of_zero (hcounter : session.nextMultiplexId = 0) :
    session.fetchMultiplexId.2.nextMultiplexId = 1 := by
  rw [fetchMultiplexId, hcounter]
  rfl

theorem drawMultiplexId_of_zero (hcounter : session.nextMultiplexId = 0) :
    session.drawMultiplexId = session.fetchMultiplexId.2.fetchMultiplexId := by
  rw [drawMultiplexId, if_pos hcounter, fetchMultiplexId, nextMultiplexId_of_zero hcounter]
  rfl

/-- The loop ends after one fetch or two, and in one way only. -/
theorem draws_iff :
    session.Draws fetches id after ↔
      fetches = (if session.nextMultiplexId = 0 then 2 else 1) ∧
        session.drawMultiplexId = (id, after) := by
  constructor
  · intro hdraws
    cases hdraws with
    | found hid =>
      rw [drawMultiplexId_of_ne_zero hid]
      exact ⟨(if_neg hid).symm, rfl⟩
    | again hzero hrest =>
      have hone := nextMultiplexId_of_zero hzero
      rw [drawMultiplexId_of_zero hzero]
      cases hrest with
      | found hid => exact ⟨(if_pos hzero).symm, rfl⟩
      | again hagain hlater => exact absurd (hone.symm.trans hagain) (by decide)
  · rintro ⟨rfl, hdrawn⟩
    by_cases hcounter : session.nextMultiplexId = 0
    · have hid : session.fetchMultiplexId.2.fetchMultiplexId.1 ≠ 0 := by
        intro hzero
        exact absurd ((nextMultiplexId_of_zero hcounter).symm.trans hzero) (by decide)
      rw [drawMultiplexId_of_zero hcounter] at hdrawn
      cases hdrawn
      rw [if_pos hcounter]
      exact .again hcounter (.found hid)
    · rw [drawMultiplexId_of_ne_zero hcounter] at hdrawn
      cases hdrawn
      rw [if_neg hcounter]
      exact .found hcounter

end Loop

/-! ## What leaves the counter alone -/

section Kept

theorem nextMultiplexId_of_core_eq {left right : Session τ} (hcore : left.core = right.core) :
    left.nextMultiplexId = right.nextMultiplexId := by
  have hcounter := congrArg Session.nextMultiplexId hcore
  exact hcounter

variable [Transport τ] (session : Session τ)

theorem nextMultiplexId_transmit (request : Packet) :
    (session.transmit request).2.1.nextMultiplexId = session.nextMultiplexId := by
  by_cases hfits : request.Fits
  · have hkept := nextMultiplexId_of_core_eq (session.transmit_of_fits request hfits).2
    exact hkept
  · rw [session.transmit_of_not_fits request hfits]

theorem nextMultiplexId_await (response : Packet) (checkStatus : Bool) :
    (session.await response checkStatus).2.1.nextMultiplexId = session.nextMultiplexId := by
  induction session, response using await_induction with
  | nothing session response harrival =>
    rw [await_of_nothing harrival]
    rfl
  | failed session response fault harrival =>
    rw [await_of_failed harrival]
    cases fault.isTransportFailure <;> rfl
  | short session response message harrival hshort =>
    rw [await_of_message harrival, if_pos hshort]
    rfl
  | other session response message harrival hheader hother ih =>
    rw [await_of_message harrival, if_neg hheader, if_pos hother, ih]
    rfl
  | answer session response message harrival hheader hcommand =>
    have hkept := nextMultiplexId_of_core_eq (core_conclude (session.took response message)
      (response.fill message) message.length checkStatus)
    rw [await_of_message harrival, if_neg hheader, if_neg hcommand]
    exact hkept

theorem nextMultiplexId_exchange (request response : Packet) (checkStatus : Bool) :
    (session.exchange request response checkStatus).session.nextMultiplexId =
      session.nextMultiplexId := by
  rw [← session.nextMultiplexId_transmit request]
  cases hresult : (session.transmit request).1 with
  | error fault =>
    obtain ⟨-, hcore, -⟩ := session.exchange_of_not_sent request response checkStatus hresult
    exact nextMultiplexId_of_core_eq hcore
  | ok _ =>
    obtain ⟨sent, hsent, -, hcore, -⟩ :=
      session.exchange_of_sent request response checkStatus hresult
    rw [nextMultiplexId_of_core_eq hcore, nextMultiplexId_await]
    exact nextMultiplexId_of_core_eq hsent

theorem nextMultiplexId_receiveAsync (packet : Packet) (wait : Nat) :
    (session.receiveAsync packet wait).2.1.nextMultiplexId = session.nextMultiplexId := by
  rw [receiveAsync]
  split
  · rfl
  · rfl
  · dsimp only
    split <;> rfl

end Kept

end Session

/-! ## What a session is used for -/

/-- Something that is done with a session, or happens around it. -/
inductive Use (τ : Type) where
  | draw
  | operate (operation : Operation)
  | poll (packet : Packet)
  | close
  | setUserId (userId : UInt16)
  /-- The peer acts, time passes, or the reader of the sink goes away. -/
  | surround (transport : τ) (sink : Sink)

namespace Use

variable {τ : Type}

def isDraw : Use τ → Bool
  | draw => true
  | _ => false

variable [Transport τ]

/-- The session afterwards, whatever the result. -/
def apply (session : Session τ) : Use τ → Session τ
  | draw => session.drawMultiplexId.2
  | operate operation => operation.apply session
  | poll packet => (session.pollAsync packet).2.1
  | close => session.close.2
  | setUserId userId => session.setUserId userId
  | surround transport sink => { session with transport := transport, sink := sink }

theorem nextMultiplexId_apply (session : Session τ) {use : Use τ} (hother : use.isDraw = false) :
    (use.apply session).nextMultiplexId = session.nextMultiplexId := by
  cases use with
  | draw => cases hother
  | operate operation =>
    cases operation with
    | enableSigning signer start => rfl
    | disableSigning => rfl
    | exchange request response checkStatus =>
      exact session.nextMultiplexId_exchange request response checkStatus
    | sendOnly request => exact session.nextMultiplexId_transmit request
    | receiveResponse response command checkStatus =>
      exact session.nextMultiplexId_await _ checkStatus
    | receiveAsync packet wait => exact session.nextMultiplexId_receiveAsync packet wait
  | poll packet => exact session.nextMultiplexId_receiveAsync packet _
  | close => rfl
  | setUserId userId => rfl
  | surround transport sink => rfl

end Use

namespace Session

variable {τ : Type} [Transport τ]

/-- The ids that are drawn while a session is used.  Each draw is a loop that has to end. -/
inductive Drawn : (session : Session τ) → (uses : List (Use τ)) → (ids : List UInt16) →
    (last : Session τ) → Prop where
  | done {session : Session τ} : Drawn session [] [] session
  | draw {session after last : Session τ} {uses : List (Use τ)} {fetches : Nat} {id : UInt16}
    {ids : List UInt16} (hdraws : session.Draws fetches id after)
    (hrest : Drawn after uses ids last) : Drawn session (.draw :: uses) (id :: ids) last
  | other {session last : Session τ} {use : Use τ} {uses : List (Use τ)} {ids : List UInt16}
    (hother : use.isDraw = false) (hrest : Drawn (use.apply session) uses ids last) :
    Drawn session (use :: uses) ids last

theorem Drawn.unique {session last last' : Session τ} {uses : List (Use τ)}
    {ids ids' : List UInt16} (hdrawn : session.Drawn uses ids last)
    (hother : session.Drawn uses ids' last') : ids' = ids ∧ last' = last := by
  induction hdrawn generalizing ids' last' with
  | done =>
    cases hother
    exact ⟨rfl, rfl⟩
  | draw hdraws hrest ih =>
    cases hother with
    | draw hdraws' hrest' =>
      obtain ⟨-, hresult⟩ := draws_iff.mp hdraws
      obtain ⟨-, hresult'⟩ := draws_iff.mp hdraws'
      rw [hresult] at hresult'
      cases hresult'
      obtain ⟨rfl, rfl⟩ := ih hrest'
      exact ⟨rfl, rfl⟩
    | other hdraw => cases hdraw
  | other hdraw hrest ih =>
    cases hother with
    | draw => cases hdraw
    | other _ hrest' => exact ih hrest'

/-! ## The circle -/

omit [Transport τ] in
/-- Every id is one more than the last, and after 65535 comes one. -/
theorem toNat_drawMultiplexId_succ (session : Session τ) :
    session.drawMultiplexId.2.drawMultiplexId.1.toNat =
      1 + session.drawMultiplexId.1.toNat % 65535 := by
  have hbound := session.drawMultiplexId.1.toNat_lt
  have hnumber : (session.drawMultiplexId.1 + 1).toNat =
      (session.drawMultiplexId.1.toNat + 1) % 65536 :=
    UInt16.toNat_add session.drawMultiplexId.1 1
  by_cases hzero : session.drawMultiplexId.1 + 1 = 0
  · have hone : session.drawMultiplexId.2.drawMultiplexId.1.toNat = 1 :=
      congrArg UInt16.toNat (if_pos hzero)
    have hwrapped : (session.drawMultiplexId.1 + 1).toNat = 0 := congrArg UInt16.toNat hzero
    omega
  · have hnext : session.drawMultiplexId.2.drawMultiplexId.1.toNat =
        (session.drawMultiplexId.1 + 1).toNat :=
      congrArg UInt16.toNat (if_neg hzero)
    have hpositive : (session.drawMultiplexId.1 + 1).toNat ≠ 0 :=
      fun hnone => hzero (UInt16.toNat.inj hnone)
    omega

/-- The next id is the one that is due after so many. -/
def Due (session : Session τ) (count : Nat) : Prop :=
  session.drawMultiplexId.1.toNat = 1 + count % 65535

omit [Transport τ] in
theorem due_new (transport : τ) (sink : Sink) (settings : Settings) :
    (Session.new transport sink settings).Due 0 := rfl

omit [Transport τ] in
theorem Due.succ {session : Session τ} {count : Nat} (hdue : session.Due count) :
    session.drawMultiplexId.2.Due (count + 1) := by
  rw [Due, toNat_drawMultiplexId_succ, hdue]
  omega

theorem Due.apply {session : Session τ} {count : Nat} (hdue : session.Due count) {use : Use τ}
    (hother : use.isDraw = false) : (use.apply session).Due count := by
  rwa [Due, drawMultiplexId, use.nextMultiplexId_apply session hother]

/-- The ids go round from one on and leave out zero. -/
structure GoRound (ids : List UInt16) : Prop where
  toNat_eq : ∀ index (hindex : index < ids.length), ids[index].toNat = 1 + index % 65535
  ne_zero : ∀ id ∈ ids, id ≠ 0
  nodup : ∀ start, ((ids.drop start).take 65535).Nodup

theorem exists_drawn (uses : List (Use τ)) {session : Session τ} {count : Nat}
    (hdue : session.Due count) :
    ∃ ids last, session.Drawn uses ids last ∧ ids.length = uses.countP Use.isDraw ∧
      ∀ index (hindex : index < ids.length), ids[index].toNat = 1 + (count + index) % 65535 := by
  induction uses generalizing session count with
  | nil => exact ⟨[], session, .done, rfl, nofun⟩
  | cons use uses ih =>
    cases hdraw : use.isDraw with
    | true =>
      obtain rfl : use = .draw := by
        cases use with
        | draw => rfl
        | _ => cases hdraw
      obtain ⟨ids, last, hdrawn, hlength, hids⟩ := ih hdue.succ
      refine ⟨session.drawMultiplexId.1 :: ids, last,
        .draw (draws_iff.mpr ⟨rfl, rfl⟩) hdrawn, ?_, ?_⟩
      · rw [List.length_cons, hlength, List.countP_cons_of_pos hdraw]
      · intro index hindex
        cases index with
        | zero => exact hdue
        | succ index =>
          rw [List.getElem_cons_succ, hids, Nat.add_assoc, Nat.add_comm 1 index]
    | false =>
      obtain ⟨ids, last, hdrawn, hlength, hids⟩ := ih (hdue.apply hdraw)
      refine ⟨ids, last, .other hdraw hdrawn, ?_, hids⟩
      rw [hlength, List.countP_cons_of_neg (by rw [hdraw]; decide)]

omit [Transport τ] in
theorem goRound_of_toNat_eq {ids : List UInt16}
    (hids : ∀ index (hindex : index < ids.length), ids[index].toNat = 1 + index % 65535) :
    GoRound ids := by
  refine ⟨hids, fun id hid hzero => ?_, fun start => ?_⟩
  · obtain ⟨index, hindex, rfl⟩ := List.mem_iff_getElem.mp hid
    have hnumber := hids index hindex
    rw [hzero] at hnumber
    have hnone : (0 : UInt16).toNat = 0 := rfl
    omega
  · rw [List.Nodup, List.pairwise_iff_getElem]
    intro first second hfirst hsecond hless hsame
    rw [List.length_take, List.length_drop] at hfirst hsecond
    rw [List.getElem_take, List.getElem_take, List.getElem_drop, List.getElem_drop] at hsame
    have hnumber := congrArg UInt16.toNat hsame
    rw [hids, hids] at hnumber
    omega

/-- However a session is used, each draw of an id comes to an end, and in the order of the draws the
ids go round. -/
theorem multiplexIds_go_round (transport : τ) (sink : Sink) (settings : Settings)
    (uses : List (Use τ)) :
    ∃ ids last, (Session.new transport sink settings).Drawn uses ids last ∧
      (∀ ids' last', (Session.new transport sink settings).Drawn uses ids' last' →
        ids' = ids ∧ last' = last) ∧
      ids.length = uses.countP Use.isDraw ∧ GoRound ids := by
  obtain ⟨ids, last, hdrawn, hlength, hids⟩ := exists_drawn uses (due_new transport sink settings)
  simp only [Nat.zero_add] at hids
  exact ⟨ids, last, hdrawn, fun _ _ => hdrawn.unique, hlength, goRound_of_toNat_eq hids⟩

end Session

end SmbExchange

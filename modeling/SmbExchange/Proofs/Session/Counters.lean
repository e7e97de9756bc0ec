import SmbExchange.Proofs.Session.Intake

/-!
# Counters that agree with what happened

The counters are moved in several places, along every way in which an
operation can end, and wrap like machine words.  What they should say is known
without them: what the sink was called with, which requests the transport
accepted, which messages it returned, and how often a further response was
found.  A `Tally` holds these, and two readings of the counters are `Balanced`
by it.

A message that is received is counted once more for what becomes of it.  One
lemma for each outcome takes both counts together, since in between the
balance does not hold.  Readings that follow each other add up, and this
carries the balance through a wait, an operation and a run.
-/

namespace SmbExchange

def lengthTogether {α : Type} (length : α → Nat) (things : List α) : Nat :=
  things.foldr (fun thing total => length thing + total) 0

theorem lengthTogether_append {α : Type} (length : α → Nat) (earlier later : List α) :
    lengthTogether length (earlier ++ later) =
      lengthTogether length earlier + lengthTogether length later := by
  induction earlier with
  | nil => exact (Nat.zero_add _).symm
  | cons thing things ih =>
    rw [lengthTogether] at ih
    rw [lengthTogether, List.cons_append, List.foldr_cons, ih, ← Nat.add_assoc]
    rfl

/-- What happened between two readings of the counters. -/
structure Tally where
  /-- What became of the packets that the sink was called with. -/
  delivered : List Delivery
  /-- The requests that the transport accepted. -/
  accepted : List Packet
  /-- The messages that the transport returned. -/
  returned : List Bytes
  /-- How many waits for a further response found it. -/
  responses : Nat

namespace Tally

def empty : Tally := ⟨[], [], [], 0⟩

def followedBy (earlier later : Tally) : Tally where
  delivered := earlier.delivered ++ later.delivered
  accepted := earlier.accepted ++ later.accepted
  returned := earlier.returned ++ later.returned
  responses := earlier.responses + later.responses

end Tally

namespace Metrics

/-- How far a counter has moved. -/
def growth (before after : Metrics) (counter : Metrics → UInt64) : UInt64 :=
  counter after - counter before

theorem growth_trans (first middle last : Metrics) (counter : Metrics → UInt64) :
    growth first last counter = growth first middle counter + growth middle last counter := by
  simp only [growth]
  grind

/-- The counters have moved as what happened says, and every exchange and every message is counted
with its outcome. -/
structure Balanced (before after : Metrics) (tally : Tally) : Prop where
  exchanges_eq : growth before after exchangesTotal =
    growth before after exchangesSuccess + growth before after exchangesFailed
  received_eq : growth before after messagesReceived =
    growth before after shortReceives + growth before after asyncDiverted +
      growth before after signatureFailures + growth before after protocolErrors +
      growth before after exchangesSuccess + UInt64.ofNat tally.responses
  diverted_eq : growth before after asyncDiverted = UInt64.ofNat tally.delivered.length
  sent_eq : growth before after messagesSent = UInt64.ofNat tally.accepted.length
  sentBytes_eq : growth before after bytesSent =
    UInt64.ofNat (lengthTogether Packet.totalLength tally.accepted)
  receivedBytes_eq : growth before after bytesReceived =
    UInt64.ofNat (lengthTogether List.length tally.returned)

namespace Balanced

theorem refl (metrics : Metrics) : Balanced metrics metrics .empty := by
  constructor <;> simp only [growth, UInt64.sub_self] <;> rfl

/-- Readings that follow each other add up. -/
theorem trans {first middle last : Metrics} {earlier later : Tally}
    (hbefore : Balanced first middle earlier) (hafter : Balanced middle last later) :
    Balanced first last (earlier.followedBy later) := by
  obtain ⟨hexchanges, hreceived, hdiverted, hsent, hsentBytes, hreceivedBytes⟩ := hbefore
  obtain ⟨hexchanges', hreceived', hdiverted', hsent', hsentBytes', hreceivedBytes'⟩ := hafter
  constructor
  · simp only [growth_trans first middle last]
    grind
  · simp only [growth_trans first middle last, Tally.followedBy, UInt64.ofNat_add]
    grind
  · rw [growth_trans first middle last, hdiverted, hdiverted', Tally.followedBy,
      List.length_append, UInt64.ofNat_add]
  · rw [growth_trans first middle last, hsent, hsent', Tally.followedBy, List.length_append,
      UInt64.ofNat_add]
  · rw [growth_trans first middle last, hsentBytes, hsentBytes', Tally.followedBy,
      lengthTogether_append, UInt64.ofNat_add]
  · rw [growth_trans first middle last, hreceivedBytes, hreceivedBytes', Tally.followedBy,
      lengthTogether_append, UInt64.ofNat_add]

/-! ## Single counts -/

theorem add_sub_self (count step : UInt64) : count + step - count = step := by
  grind

section Counts

variable (metrics : Metrics) (message : Bytes)

theorem connectionError : Balanced metrics metrics.connectionError .empty := by
  constructor <;> simp only [growth, Metrics.connectionError, UInt64.sub_self] <;> rfl

theorem messageSent (request : Packet) :
    Balanced metrics (metrics.messageSent (UInt64.ofNat request.totalLength))
      { Tally.empty with accepted := [request] } := by
  constructor <;> simp only [growth, Metrics.messageSent, UInt64.sub_self, add_sub_self] <;> rfl

/-! A received message with what becomes of it. -/

theorem shortReceive :
    Balanced metrics (metrics.messageReceived (UInt64.ofNat message.length)).shortReceive
      { Tally.empty with returned := [message] } := by
  constructor <;> simp only [growth, Metrics.messageReceived, Metrics.shortReceive,
    UInt64.sub_self, add_sub_self] <;> rfl

theorem diverted (delivery : Delivery) :
    Balanced metrics
      ((metrics.messageReceived (UInt64.ofNat message.length)).diverted.unhandled
        delivery.unhandled)
      { Tally.empty with returned := [message], delivered := [delivery] } := by
  constructor <;> simp only [growth, Metrics.messageReceived, Metrics.diverted,
    Metrics.unhandled, UInt64.sub_self, add_sub_self] <;> rfl

theorem signatureFailure :
    Balanced metrics (metrics.messageReceived (UInt64.ofNat message.length)).signatureFailure
      { Tally.empty with returned := [message] } := by
  constructor <;> simp only [growth, Metrics.messageReceived, Metrics.signatureFailure,
    UInt64.sub_self, add_sub_self] <;> rfl

theorem protocolError :
    Balanced metrics (metrics.messageReceived (UInt64.ofNat message.length)).protocolError
      { Tally.empty with returned := [message] } := by
  constructor <;> simp only [growth, Metrics.messageReceived, Metrics.protocolError,
    UInt64.sub_self, add_sub_self] <;> rfl

theorem response :
    Balanced metrics (metrics.messageReceived (UInt64.ofNat message.length))
      { Tally.empty with returned := [message], responses := 1 } := by
  constructor <;> simp only [growth, Metrics.messageReceived, UInt64.sub_self,
    add_sub_self] <;> rfl

end Counts

/-! ## Exchanges -/

section Exchanges

variable {before ended : Metrics} {tally : Tally}

/-- The response of an exchange counts for the exchange and not as a further one. -/
theorem exchangeSuccess (hexchange : Balanced before.exchangeStarted ended tally)
    (hfound : tally.responses = 1) :
    Balanced before ended.exchangeSuccess { tally with responses := 0 } := by
  obtain ⟨hexchanges, hreceived, hdiverted, hsent, hsentBytes, hreceivedBytes⟩ := hexchange
  refine ⟨?_, ?_, hdiverted, hsent, hsentBytes, hreceivedBytes⟩
  · simp only [growth, exchangeStarted, Metrics.exchangeSuccess] at hexchanges ⊢
    grind
  · rw [hfound] at hreceived
    simp only [growth, exchangeStarted, Metrics.exchangeSuccess, UInt64.reduceOfNat]
      at hreceived ⊢
    grind

theorem exchangeFailed (hexchange : Balanced before.exchangeStarted ended tally)
    (hfound : tally.responses = 0) :
    Balanced before ended.exchangeFailed { tally with responses := 0 } := by
  obtain ⟨hexchanges, hreceived, hdiverted, hsent, hsentBytes, hreceivedBytes⟩ := hexchange
  rw [hfound] at hreceived
  refine ⟨?_, hreceived, hdiverted, hsent, hsentBytes, hreceivedBytes⟩
  simp only [growth, exchangeStarted, Metrics.exchangeFailed] at hexchanges ⊢
  grind

end Exchanges

end Balanced

end Metrics

/-! ## Steps of a session -/

namespace Session

/-- The messages that a buffer with some room can take in.  A transport returns these and refuses
the others. -/
def fitting (room : Nat) (messages : List Bytes) : List Bytes :=
  messages.filter fun message => message.length ≤ room

/-- From one session to a later one the counters have moved as the tally says, and the tally is
what has been handed to the sink and what has arrived and fits. -/
structure Counted {τ : Type} (before after : Session (Taped τ)) (room : Nat) (tally : Tally) :
    Prop where
  balanced : before.metrics.Balanced after.metrics tally
  deliveries_eq : after.deliveries = before.deliveries ++ tally.delivered
  arrived : ∃ messages, after.transport.arrived = before.transport.arrived ++ messages ∧
    tally.returned = fitting room messages

namespace Counted

variable {τ : Type} {first middle last : Session (Taped τ)} {room : Nat} {earlier later : Tally}

theorem trans (hbefore : Counted first middle room earlier)
    (hafter : Counted middle last room later) :
    Counted first last room (earlier.followedBy later) := by
  obtain ⟨messages, harrived, hreturned⟩ := hbefore.arrived
  obtain ⟨messages', harrived', hreturned'⟩ := hafter.arrived
  refine ⟨hbefore.balanced.trans hafter.balanced, ?_, messages ++ messages', ?_, ?_⟩
  · rw [hafter.deliveries_eq, hbefore.deliveries_eq, List.append_assoc]
    rfl
  · rw [harrived', harrived, List.append_assoc]
  · rw [Tally.followedBy, hreturned, hreturned', fitting, fitting, fitting, List.filter_append]

end Counted

section Effects

variable {τ : Type} (session : Session τ) (response : Packet)

theorem metrics_verifyResponse (length : Nat) :
    ((session.verifyResponse response length).1 = .ok () ∧
        (session.verifyResponse response length).2.metrics = session.metrics) ∨
      ((session.verifyResponse response length).1 ≠ .ok () ∧
        (session.verifyResponse response length).2.metrics = session.metrics.signatureFailure) := by
  rw [verifyResponse]
  cases session.signer with
  | none => exact .inl ⟨rfl, rfl⟩
  | some signer =>
    dsimp only
    split
    · exact .inr ⟨by simp, rfl⟩
    · exact .inl ⟨rfl, rfl⟩

/-- A response that is refused is counted for its signature or for its status, and one that is
accepted is not counted here at all. -/
theorem metrics_conclude (length : Nat) (checkStatus : Bool) :
    ((session.conclude response length checkStatus).1 = .ok () ∧
        (session.conclude response length checkStatus).2.metrics = session.metrics) ∨
      ((session.conclude response length checkStatus).1 ≠ .ok () ∧
        ((session.conclude response length checkStatus).2.metrics =
            session.metrics.signatureFailure ∨
          (session.conclude response length checkStatus).2.metrics =
            session.metrics.protocolError)) := by
  have hverified := session.metrics_verifyResponse response length
  rw [conclude]
  generalize session.verifyResponse response length = verified at hverified
  rcases verified with ⟨_ | _, after⟩
  · rcases hverified with ⟨hresult, -⟩ | ⟨-, hmetrics⟩
    · cases hresult
    · exact .inr ⟨by simp, .inl hmetrics⟩
  · rcases hverified with ⟨-, hmetrics⟩ | ⟨hresult, -⟩
    · have hshown : (if after.settings.dumpPackets then
          after.log [.responseDump response.dump] else after).metrics = session.metrics := by
        split <;> exact hmetrics
      dsimp only
      split
      · refine .inr ⟨by simp, .inr ?_⟩
        rw [← hshown]
        rfl
      · exact .inl ⟨rfl, hshown⟩
    · exact absurd rfl hresult

variable [Transport τ] (request : Packet)

/-- A request that is sent is counted with its length, and of one that is not the connection may
be to blame. -/
theorem metrics_transmit :
    ((session.transmit request).1 = .ok () ∧
        (session.transmit request).2.1.metrics =
          session.metrics.messageSent (UInt64.ofNat request.totalLength)) ∨
      ((session.transmit request).1 ≠ .ok () ∧
        ((session.transmit request).2.1.metrics = session.metrics ∨
          (session.transmit request).2.1.metrics = session.metrics.connectionError)) := by
  by_cases hfits : request.Fits
  · have hlength := session.totalLength_readied request
    rw [transmit, session.prepare_of_fits request hfits]
    dsimp only
    split
    · exact .inr ⟨by simp, .inl rfl⟩
    · split
      · exact .inr ⟨by simp, .inr rfl⟩
      · refine .inl ⟨rfl, ?_⟩
        rw [hlength]
        rfl
  · rw [session.transmit_of_not_fits request hfits]
    exact .inr ⟨by simp, .inl rfl⟩

/-- The request, if the transport accepts it.  Only one that fits its buffer is handed over. -/
def accepted : List Packet :=
  if request.Fits ∧ (session.handOver request).1 = .ok () then [request] else []

theorem accepted_of_sent (hsent : (session.transmit request).1 = .ok ()) :
    session.accepted request = [request] := by
  have hfits := session.fits_of_sent request hsent
  exact if_pos ⟨hfits, (session.transmit_of_fits request hfits).1.symm.trans hsent⟩

theorem accepted_of_not_sent (hrefused : (session.transmit request).1 ≠ .ok ()) :
    session.accepted request = [] := by
  refine if_neg fun haccepted => hrefused ?_
  exact (session.transmit_of_fits request haccepted.1).1.trans haccepted.2

theorem balanced_transmit :
    session.metrics.Balanced (session.transmit request).2.1.metrics
      { Tally.empty with accepted := session.accepted request } := by
  rcases session.metrics_transmit request with ⟨hsent, hmetrics⟩ | ⟨hrefused, hmetrics⟩
  · rw [session.accepted_of_sent request hsent, hmetrics]
    exact .messageSent session.metrics request
  · rw [session.accepted_of_not_sent request hrefused]
    rcases hmetrics with hmetrics | hmetrics <;> rw [hmetrics]
    · exact .refl session.metrics
    · exact .connectionError session.metrics

end Effects

/-! ## Waits -/

/-- How many responses a result says were found. -/
def found : Except Fault Unit → Nat
  | .ok _ => 1
  | .error _ => 0

section Waiting

variable {τ : Type} [Transport τ]

/-- Of what arrives, a transport returns the messages that fit. -/
theorem arrived_receive (transport : Taped τ) (room wait : Nat) :
    ∃ messages,
      (Transport.receive transport room wait).transport.arrived =
          transport.arrived ++ messages ∧
        Taped.messages (Transport.receive transport room wait).arrival =
          fitting room messages := by
  refine ⟨Taped.messages (Transport.next transport wait).arrival, ?_, ?_⟩
  · rw [Transport.transport_receive]
    exact (Taped.records_next transport wait).arrived_eq
  · rcases Transport.arrival_receive_cases transport room wait with
      hsame | ⟨message, hnext, hlong, hrefused⟩
    · cases harrival : (Transport.receive transport room wait).arrival with
      | message message =>
        obtain ⟨hnext, hfits⟩ := Transport.next_of_arrival_receive harrival
        rw [hnext]
        simp [Taped.messages, fitting, hfits]
      | nothing => rw [← hsame, harrival]; rfl
      | failed fault => rw [← hsame, harrival]; rfl
    · have hlost : ¬ message.length ≤ room := Nat.not_le_of_lt hlong
      rw [hrefused, hnext]
      simp [Taped.messages, fitting, hlost]

/-- A step that has waited for one message. -/
theorem counted_of_receive {session after : Session (Taped τ)} {room wait : Nat} {tally : Tally}
    (hbalanced : session.metrics.Balanced after.metrics tally)
    (hdeliveries : after.deliveries = session.deliveries ++ tally.delivered)
    (htransport : after.transport = (Transport.receive session.transport room wait).transport)
    (hreturned : tally.returned =
      Taped.messages (Transport.receive session.transport room wait).arrival) :
    Counted session after room tally := by
  obtain ⟨messages, harrived, hfitting⟩ := arrived_receive session.transport room wait
  exact ⟨hbalanced, hdeliveries, messages, htransport ▸ harrived, hreturned.trans hfitting⟩

/-- A wait counts each message that it passes over for the sink, and the last one for what becomes
of it. -/
theorem counted_await (session : Session (Taped τ)) (response : Packet) (checkStatus : Bool) :
    ∃ tally, Counted session (session.await response checkStatus).2.1 response.messageRoom tally ∧
      tally.accepted = [] ∧
      tally.responses = found (session.await response checkStatus).1 := by
  induction session, response using await_induction with
  | nothing session response harrival =>
    rw [await_of_nothing harrival]
    exact ⟨.empty, counted_of_receive (.connectionError session.metrics)
      (List.append_nil _).symm rfl (by rw [harrival]; rfl), rfl, rfl⟩
  | failed session response fault harrival =>
    have hreturned : [] = Taped.messages (session.incoming response).arrival := by
      rw [harrival]
      rfl
    rw [await_of_failed harrival]
    cases fault.isTransportFailure with
    | false =>
      exact ⟨.empty, counted_of_receive (.refl session.metrics) (List.append_nil _).symm rfl
        hreturned, rfl, rfl⟩
    | true =>
      exact ⟨.empty, counted_of_receive (.connectionError session.metrics)
        (List.append_nil _).symm rfl hreturned, rfl, rfl⟩
  | short session response message harrival hshort =>
    rw [await_of_message harrival, if_pos hshort]
    exact ⟨{ Tally.empty with returned := [message] },
      counted_of_receive (.shortReceive session.metrics message) (List.append_nil _).symm rfl
        (by rw [harrival]; rfl), rfl, rfl⟩
  | other session response message harrival hheader hother ih =>
    rw [await_of_message harrival, if_neg hheader, if_pos hother]
    obtain ⟨tally, hcounted, haccepted, hresponses⟩ := ih
    rw [Packet.messageRoom_fill] at hcounted
    have hpassed : Counted session (session.passOver response message) response.messageRoom
        { Tally.empty with
          returned := [message], delivered := [session.sink.process (response.fill message)] } :=
      counted_of_receive (.diverted session.metrics message _) rfl rfl (by rw [harrival]; rfl)
    refine ⟨_, hpassed.trans hcounted, ?_, ?_⟩
    · rw [Tally.followedBy, haccepted]
      rfl
    · rw [Tally.followedBy, hresponses]
      exact Nat.zero_add _
  | answer session response message harrival hheader hcommand =>
    rw [await_of_message harrival, if_neg hheader, if_neg hcommand]
    have hreturned : [message] = Taped.messages (session.incoming response).arrival := by
      rw [harrival]
      rfl
    have hdeliveries : ((session.took response message).conclude (response.fill message)
        message.length checkStatus).2.deliveries = session.deliveries ++ [] := by
      rw [deliveries_conclude, List.append_nil]
      rfl
    rcases (session.took response message).metrics_conclude (response.fill message)
      message.length checkStatus with ⟨hresult, hmetrics⟩ | ⟨hresult, hmetrics⟩
    · refine ⟨{ Tally.empty with returned := [message], responses := 1 },
        counted_of_receive ?_ hdeliveries (transport_conclude ..) hreturned, rfl, ?_⟩
      · rw [hmetrics]
        exact .response session.metrics message
      · rw [hresult]
        rfl
    · refine ⟨{ Tally.empty with returned := [message] },
        counted_of_receive ?_ hdeliveries (transport_conclude ..) hreturned, rfl, ?_⟩
      · rcases hmetrics with hmetrics | hmetrics <;> rw [hmetrics]
        · exact .signatureFailure session.metrics message
        · exact .protocolError session.metrics message
      · generalize ((session.took response message).conclude (response.fill message)
          message.length checkStatus).1 = result at hresult
        cases result with
        | error fault => rfl
        | ok _ => exact absurd rfl hresult

/-- A wait for an unsolicited packet counts the message that it hands to the sink. -/
theorem counted_receiveAsync (session : Session (Taped τ)) (packet : Packet) (wait : Nat) :
    ∃ tally, Counted session (session.receiveAsync packet wait).2.1 packet.messageRoom tally ∧
      tally.accepted = [] ∧ tally.responses = 0 := by
  have hroom : packet.reset.messageRoom = packet.messageRoom :=
    congrArg (· - Packet.headerRoom) packet.capacity_reset
  rw [← hroom]
  cases harrival : (session.unsolicited packet wait).arrival with
  | nothing =>
    rw [receiveAsync_of_nothing harrival]
    exact ⟨.empty, counted_of_receive (.refl session.metrics) (List.append_nil _).symm rfl
      (by rw [harrival]; rfl), rfl, rfl⟩
  | failed fault =>
    rw [receiveAsync_of_failed harrival]
    exact ⟨.empty, counted_of_receive (.refl session.metrics) (List.append_nil _).symm rfl
      (by rw [harrival]; rfl), rfl, rfl⟩
  | message message =>
    rw [receiveAsync_of_message harrival]
    by_cases hshort : message.length < Packet.minimumMessage
    · rw [if_pos hshort]
      exact ⟨{ Tally.empty with returned := [message] },
        counted_of_receive (.shortReceive session.metrics message) (List.append_nil _).symm rfl
          (by rw [harrival]; rfl), rfl, rfl⟩
    · rw [if_neg hshort]
      exact ⟨{ Tally.empty with returned := [message], delivered := [_] },
        counted_of_receive (.diverted session.metrics message _) rfl rfl
          (by rw [harrival]; rfl), rfl, rfl⟩

end Waiting

/-! ## Exchanges -/

section Exchanging

variable {τ : Type} [Transport τ] (session : Session (Taped τ)) (request : Packet)

theorem counted_transmit (room : Nat) :
    Counted session (session.transmit request).2.1 room
      { Tally.empty with accepted := session.accepted request } := by
  obtain ⟨harrived, -, hdeliveries⟩ := session.transmit_takes_nothing request
  refine ⟨session.balanced_transmit request, ?_, [], ?_, rfl⟩
  · rw [hdeliveries]
    exact (List.append_nil _).symm
  · rw [harrived, List.append_nil]

omit [Transport τ] in
/-- The end of an exchange counts it, with the response as its success. -/
theorem counted_finish {session ended : Session (Taped τ)} {room : Nat} {tally : Tally}
    {result : Except Fault Unit}
    (hended : Counted (session.count Metrics.exchangeStarted) ended room tally)
    (hfound : tally.responses = found result) :
    Counted session (ended.finish result) room { tally with responses := 0 } := by
  obtain ⟨hbalanced, hdeliveries, messages, harrived, hreturned⟩ := hended
  cases result with
  | ok _ =>
    exact ⟨hbalanced.exchangeSuccess hfound, hdeliveries, messages, harrived, hreturned⟩
  | error fault =>
    exact ⟨hbalanced.exchangeFailed hfound, hdeliveries, messages, harrived, hreturned⟩

theorem counted_exchange (response : Packet) (checkStatus : Bool) :
    ∃ tally,
      Counted session (session.exchange request response checkStatus).session
          response.messageRoom tally ∧
        tally.accepted = session.accepted request ∧ tally.responses = 0 := by
  have hsending := (session.count Metrics.exchangeStarted).counted_transmit request
    response.messageRoom
  rw [exchange]
  generalize (session.count Metrics.exchangeStarted).transmit request = attempt at hsending
  obtain ⟨result, sent, packet⟩ := attempt
  cases result with
  | error fault =>
    have hended : Counted session (sent.finish (.error fault)) response.messageRoom _ :=
      counted_finish hsending rfl
    exact ⟨_, hended, rfl, rfl⟩
  | ok _ =>
    obtain ⟨tally, hwaited, haccepted, hresponses⟩ :=
      sent.counted_await (awaiting response request.expectedCommand) checkStatus
    rw [messageRoom_awaiting] at hwaited
    refine ⟨_, counted_finish (hsending.trans hwaited) ?_, ?_, rfl⟩
    · exact (Nat.zero_add _).trans hresponses
    · rw [Tally.followedBy, haccepted, List.append_nil]
      rfl

end Exchanging

end Session

/-! ## Operations and runs -/

namespace Operation

variable {τ : Type} [Transport τ]

/-- The messages that the transport returns during an operation.  An operation that waits for none
has no room and takes none in. -/
def returned (session : Session τ) (operation : Operation) : List Bytes :=
  Session.fitting (operation.room?.getD 0) (operation.traffic session).arrived

/-- The request of an operation, if there is one and the transport accepts it. -/
def accepted (session : Session τ) (operation : Operation) : List Packet :=
  (operation.request?.map session.accepted).getD []

def responses (session : Session τ) : Operation → Nat
  | receiveResponse response command checkStatus =>
    Session.found (session.receiveResponse response command checkStatus).1
  | _ => 0

/-- What happens in an operation, told without the counters. -/
def tally (session : Session τ) (operation : Operation) : Tally where
  delivered := (operation.apply session).deliveries.drop session.deliveries.length
  accepted := operation.accepted session
  returned := operation.returned session
  responses := operation.responses session

omit [Transport τ] in
theorem counted_of_untouched {session after : Session (Taped τ)} (room : Nat)
    (hmetrics : after.metrics = session.metrics)
    (hdeliveries : after.deliveries = session.deliveries)
    (harrived : after.transport.arrived = session.transport.arrived) :
    Session.Counted session after room .empty := by
  refine ⟨?_, ?_, [], ?_, rfl⟩
  · rw [hmetrics]
    exact .refl session.metrics
  · rw [hdeliveries]
    exact (List.append_nil _).symm
  · rw [harrived, List.append_nil]

theorem counted_apply (session : Session (Taped τ)) (operation : Operation) :
    ∃ tally,
      Session.Counted session (operation.apply session) (operation.room?.getD 0) tally ∧
        tally.accepted = operation.accepted session ∧
        tally.responses = operation.responses session := by
  cases operation with
  | enableSigning signer start => exact ⟨.empty, counted_of_untouched _ rfl rfl rfl, rfl, rfl⟩
  | disableSigning => exact ⟨.empty, counted_of_untouched _ rfl rfl rfl, rfl, rfl⟩
  | exchange request response checkStatus =>
    exact session.counted_exchange request response checkStatus
  | sendOnly request => exact ⟨_, session.counted_transmit request 0, rfl, rfl⟩
  | receiveResponse response command checkStatus =>
    have hwaited := session.counted_await (Session.awaiting response command) checkStatus
    rwa [Session.messageRoom_awaiting] at hwaited
  | receiveAsync packet wait => exact session.counted_receiveAsync packet wait

/-- An operation does not find another response for the tape beside it. -/
theorem responses_mapTransport (session : Session τ) (operation : Operation) :
    operation.responses (session.mapTransport Taped.blank) = operation.responses session := by
  cases operation with
  | receiveResponse response command checkStatus =>
    have hwait := Session.await_mapTransport (Taped.unnoticed_untape (τ := τ))
      (session.mapTransport Taped.blank) (Session.awaiting response command) checkStatus
    have hresult := congrArg (fun outcome => Session.found outcome.1) hwait
    exact hresult.symm
  | _ => rfl

/-- Every operation, whatever comes of it. -/
theorem balanced_apply (session : Session τ) (operation : Operation) :
    session.metrics.Balanced (operation.apply session).metrics (operation.tally session) := by
  obtain ⟨tally, hcounted, haccepted, hresponses⟩ :=
    counted_apply (session.mapTransport Taped.blank) operation
  obtain ⟨hbalanced, hdeliveries, messages, harrived, hreturned⟩ := hcounted
  have huntaped := apply_untape (session.mapTransport Taped.blank) operation
  have hmetrics : (operation.apply (session.mapTransport Taped.blank)).metrics =
      (operation.apply session).metrics := congrArg Session.metrics huntaped
  have hdelivered : (operation.apply session).deliveries =
      session.deliveries ++ tally.delivered :=
    (congrArg Session.deliveries huntaped).symm.trans hdeliveries
  have htally : operation.tally session = tally := by
    obtain ⟨delivered, accepted, returned, responses⟩ := tally
    rw [Operation.tally, Tally.mk.injEq]
    refine ⟨?_, ?_, ?_, ?_⟩
    · rw [hdelivered, List.drop_left]
    · exact haccepted.symm
    · have htaken : (operation.traffic session).arrived = messages := harrived
      rw [Operation.returned, htaken]
      exact hreturned.symm
    · rw [← responses_mapTransport]
      exact hresponses.symm
  rw [htally, ← hmetrics]
  exact hbalanced

end Operation

/-- Something that is done between two readings of the counters, which all sessions share. -/
inductive Activity (τ : Type) where
  | operate (operation : Operation)
  | poll (packet : Packet)
  | close
  | setUserId (userId : UInt16)
  | drawMultiplexId
  /-- The peer acts, the network changes, or another session is used. -/
  | turnTo (other : Session τ)

namespace Activity

variable {τ : Type} [Transport τ]

/-- The session after an activity, whatever its result. -/
def apply (session : Session τ) : Activity τ → Session τ
  | operate operation => operation.apply session
  | poll packet => (session.pollAsync packet).2.1
  | close => session.close.2
  | setUserId userId => session.setUserId userId
  | drawMultiplexId => session.drawMultiplexId.2
  | turnTo other => { other with metrics := session.metrics }

def tally (session : Session τ) : Activity τ → Tally
  | operate operation => operation.tally session
  | poll packet => (Operation.receiveAsync packet session.settings.pollWait).tally session
  | _ => .empty

theorem balanced_apply (session : Session τ) (activity : Activity τ) :
    session.metrics.Balanced (activity.apply session).metrics (activity.tally session) := by
  cases activity with
  | operate operation => exact operation.balanced_apply session
  | poll packet =>
    exact (Operation.receiveAsync packet session.settings.pollWait).balanced_apply session
  | close | setUserId | drawMultiplexId | turnTo => exact .refl session.metrics

end Activity

namespace Session

variable {τ : Type} [Transport τ]

def afterAll (session : Session τ) (activities : List (Activity τ)) : Session τ :=
  activities.foldl Activity.apply session

/-- What happens in activities, one after the other. -/
def tally (session : Session τ) : List (Activity τ) → Tally
  | [] => .empty
  | activity :: activities =>
    (activity.tally session).followedBy ((activity.apply session).tally activities)

/-- Over any run the counters move as what happened says, whatever they were before and however
each activity ends. -/
theorem balanced_afterAll (session : Session τ) (activities : List (Activity τ)) :
    session.metrics.Balanced (session.afterAll activities).metrics (session.tally activities) := by
  induction activities generalizing session with
  | nil => exact .refl session.metrics
  | cons activity activities ih =>
    exact (activity.balanced_apply session).trans (ih (activity.apply session))

end Session

end SmbExchange

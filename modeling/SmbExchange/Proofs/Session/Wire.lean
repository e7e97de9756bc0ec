import SmbExchange.Proofs.Frame.RoundTrip
import SmbExchange.Proofs.Session.Accounting
import SmbExchange.Proofs.Session.Conservation

/-!
# What goes over the wire

A session does not encode the messages that it sends.  Each request is handed to
the transport in its own buffer, and the header is written in place in front of
the message.  What is on the wire in the end is all the same what an encoder
makes of the messages: for every request its frame, a keep-alive as it stands,
and nothing for a request that is refused.
-/

namespace SmbExchange

open SmbExchange.Frame (Whole)

/-! ## Two ways to a frame -/

def Frame.Whole.alive : Whole :=
  ⟨keepAliveKind, 0, 0, 0, [], rfl⟩

theorem Frame.Whole.bytes_alive : alive.bytes = keepAlive := rfl

theorem Framing.encode_full {message : Bytes} (hlength : message.length ≤ Frame.maximumLength) :
    full.encode message = .ok (Frame.ofMessage message) :=
  if_neg (Nat.not_lt.mpr hlength)

namespace Packet

theorem totalLength_le_maximumLength (packet : Packet) :
    packet.totalLength ≤ Frame.maximumLength :=
  Nat.le_trans packet.totalLength_le (by decide)

theorem length_slice_totalLength_le (packet : Packet) :
    (packet.buffer.slice headerRoom packet.totalLength).length ≤ Frame.maximumLength := by
  rw [Bytes.length_slice]
  exact Nat.le_trans (Nat.min_le_left _ _) packet.totalLength_le_maximumLength

/-- A packet's frame is what an encoder makes of its message, and sending the frame comes to
writing it. -/
theorem send_frame (packet : Packet) {frame : Bytes} (hframe : packet.frame = .ok frame) :
    ∃ message, packet.message = .ok message ∧
      Framing.full.encode message = .ok (Frame.ofMessage message) ∧
      Frame.writeHeader frame (frame.length - Frame.headerLength) =
        .ok (Frame.ofMessage message) ∧
      ∀ transport : Connection,
        (Transport.send transport frame).result =
            (transport.write (Frame.ofMessage message)).1 ∧
          (Transport.send transport frame).transport =
            (transport.write (Frame.ofMessage message)).2 := by
  have hfits : packet.Fits := by
    apply Decidable.by_contra
    intro hfits
    rw [packet.frame_eq, if_neg hfits] at hframe
    simp at hframe
  obtain ⟨_, hsame, hlong, hshort, hmessage⟩ := packet.exists_frame hfits
  obtain rfl := Except.ok.inj (hframe.symm.trans hsame)
  refine ⟨packet.buffer.slice headerRoom packet.totalLength, ?_, ?_, ?_, fun transport => ?_⟩
  · rw [packet.message_eq, if_pos hfits]
  · exact Framing.encode_full packet.length_slice_totalLength_le
  · rw [← hmessage]
    exact Frame.writeHeader_eq hlong hshort
  · rw [← hmessage]
    obtain ⟨hresult, htransport, -⟩ := Transport.send_eq transport frame hlong hshort
    exact ⟨hresult, htransport⟩

/-- The header that sending leaves in a packet is not part of its message. -/
theorem message_patch_frame (packet : Packet) (hfits : packet.Fits) :
    (packet.patch 0 (Frame.ofMessage (packet.buffer.slice headerRoom packet.totalLength))).message =
      .ok (packet.buffer.slice headerRoom packet.totalLength) := by
  let message := packet.buffer.slice headerRoom packet.totalLength
  let header := Frame.messageHeader message.length
  have hheader : header.length = headerRoom := rfl
  have hsame : packet.patch 0 (Frame.ofMessage message) = packet.patch 0 header := by
    simp only [patch, Packet.mk.injEq, and_true]
    exact Bytes.patch_zero_append_slice hheader hfits
  have htotal : (packet.patch 0 header).totalLength = packet.totalLength :=
    packet.totalLength_patch_header (by rw [hheader]; decide)
  rw [hsame, message_eq, if_pos, htotal]
  · simp only [patch]
    rw [Bytes.slice_patch_outside (.inr (by rw [hheader]; decide))]
  · rw [Fits, htotal, capacity_patch]
    exact hfits

end Packet

/-! ## What is written during a wait -/

namespace Pipe

theorem outgoing_act (pipe : Pipe) (action : PeerAction) :
    (pipe.act action).outgoing = pipe.outgoing := by
  cases action with
  | send bytes =>
    rw [act]
    split <;> rfl
  | shutdown => rfl
  | leave => rfl

theorem outgoing_advance {pipe after : Pipe} {deadline : Nat}
    (hadvance : pipe.advance? deadline = some after) : after.outgoing = pipe.outgoing := by
  rw [advance?] at hadvance
  split at hadvance
  · simp at hadvance
  · split at hadvance
    · rw [← Option.some.inj hadvance, outgoing_act]
    · simp at hadvance

theorem outgoing_foldl_act (pipe : Pipe) (due : List (Nat × PeerAction)) :
    (due.foldl (fun changed entry => changed.act entry.2) pipe).outgoing = pipe.outgoing := by
  induction due generalizing pipe with
  | nil => rfl
  | cons entry due ih => rw [List.foldl_cons, ih, outgoing_act]

theorem outgoing_sleep (pipe : Pipe) (duration : Nat) :
    (pipe.sleep duration).outgoing = pipe.outgoing :=
  outgoing_foldl_act _ _

theorem outgoing_write {pipe : Pipe} {bytes : Bytes} (htaken : (pipe.write bytes).1 = .ok ()) :
    (pipe.write bytes).2.outgoing = pipe.outgoing ++ bytes := by
  rw [write] at htaken ⊢
  split
  · rename_i hbroken
    simp [hbroken] at htaken
  · rfl

end Pipe

namespace Connection

theorem outgoing_waitUntil (connection : Connection) (deadline skipped : Nat) :
    (connection.waitUntil deadline skipped).transport.pipe.outgoing =
      connection.pipe.outgoing := by
  induction connection, skipped using waitUntil_induction deadline with
  | arrives connection skipped harrival =>
    rw [waitUntil_of_arrival skipped harrival]
    rfl
  | expires connection skipped hnothing hadvance =>
    rw [waitUntil_of_expired skipped hnothing hadvance]
    rfl
  | advances connection skipped later hnothing hadvance ih =>
    rw [waitUntil_of_advance skipped hnothing hadvance, ih]
    exact (Pipe.outgoing_advance hadvance :)

theorem outgoing_next (connection : Connection) (wait : Nat) :
    (connection.next wait).transport.pipe.outgoing = connection.pipe.outgoing :=
  connection.outgoing_waitUntil _ 0

end Connection

namespace Session

variable (session : Session Connection)

/-- What has been written over the connection of a session. -/
abbrev outgoing : Bytes :=
  session.transport.pipe.outgoing

theorem outgoing_await (response : Packet) (checkStatus : Bool) :
    (session.await response checkStatus).2.1.outgoing = session.outgoing :=
  keeps_await
    (fun connection wait hsame => (Connection.outgoing_next connection wait).trans hsame)
    session response checkStatus rfl

theorem outgoing_receiveAsync (packet : Packet) (wait : Nat) :
    (session.receiveAsync packet wait).2.1.outgoing = session.outgoing := by
  rw [outgoing, transport_receiveAsync]
  exact session.transport.outgoing_next wait

/-- An exchange writes its request and nothing else. -/
theorem outgoing_exchange (request response : Packet) (checkStatus : Bool) :
    (session.exchange request response checkStatus).session.outgoing =
      (session.transmit request).2.1.outgoing := by
  cases hresult : (session.transmit request).1 with
  | error fault =>
    obtain ⟨-, hcore, -⟩ := session.exchange_of_not_sent request response checkStatus hresult
    rw [outgoing, (eq_of_core_eq hcore).1]
  | ok _ =>
    obtain ⟨sent, hcore, -, hafter, -⟩ :=
      session.exchange_of_sent request response checkStatus hresult
    rw [outgoing, outgoing, ← (eq_of_core_eq hcore).1, (eq_of_core_eq hafter).1]
    exact sent.outgoing_await _ checkStatus

/-! ## The message of a request -/

/-- The message of a request as sending leaves it, if it is sent. -/
def sentMessage (request left : Packet) : List Bytes :=
  match (session.sendOnly request).1, left.message with
  | .ok (), .ok message => [message]
  | _, _ => []

variable {session} {request left : Packet}

theorem message_transmit (hsent : (session.transmit request).1 = .ok ()) :
    (session.transmit request).2.2.message =
      .ok ((session.readied request).buffer.slice Packet.headerRoom request.totalLength) := by
  have hready := (session.fits_readied_iff request).mpr (session.fits_of_sent request hsent)
  have hmessage := (session.readied request).message_patch_frame hready
  rw [totalLength_readied] at hmessage
  rw [session.request_transmit request hsent]
  exact hmessage

theorem message_exchange (response : Packet) (checkStatus : Bool)
    (hsent : (session.transmit request).1 = .ok ()) :
    (session.exchange request response checkStatus).request.message =
      .ok ((session.readied request).buffer.slice Packet.headerRoom request.totalLength) := by
  have hcounted := (session.transmit_count request Metrics.exchangeStarted).1.trans hsent
  have hmessage := message_transmit hcounted
  rw [exchange]
  generalize (session.count Metrics.exchangeStarted).transmit request = attempt at hmessage ⊢
  obtain ⟨result, sent, packet⟩ := attempt
  cases result <;> exact hmessage

/-- What a request that has been handed over leaves on the wire is what an encoder makes of its
message. -/
theorem putAll_sentMessage
    (hwrites : ∀ frame ∈ session.frames request, (session.transport.write frame).1 = .ok ())
    (hleft : (session.transmit request).1 = .ok () → left.message =
      .ok ((session.readied request).buffer.slice Packet.headerRoom request.totalLength)) :
    Framing.full.putAll session.outgoing ((session.sentMessage request left).map .message) =
      (.ok (), (session.transmit request).2.1.outgoing) := by
  by_cases hfits : request.Fits
  · rw [frames, if_pos hfits] at hwrites
    have htaken : (session.transport.write (session.wireFrame request)).1 = .ok () :=
      hwrites _ (List.mem_singleton_self _)
    obtain ⟨hresult, hcore⟩ := session.transmit_of_fits request hfits
    have hsent : (session.transmit request).1 = .ok () := hresult.trans htaken
    have hlength := (session.readied request).length_slice_totalLength_le
    rw [totalLength_readied] at hlength
    have hwritten : (session.transmit request).2.1.outgoing =
        session.outgoing ++ session.wireFrame request := by
      rw [outgoing, (eq_of_core_eq hcore).1]
      exact Pipe.outgoing_write htaken
    simp only [sentMessage, sendOnly, hsent, hleft hsent, List.map_singleton, Framing.putAll,
      Framing.put, Framing.encodeOnto, Framing.encode_full hlength, hwritten]
    rfl
  · simp only [sentMessage, sendOnly, session.transmit_of_not_fits request hfits]
    rfl

end Session

namespace Operation

variable (session : Session Connection)

/-- The messages that an operation sends: the message of its request, if the request is sent. -/
def sent : Operation → List Bytes
  | exchange request response checkStatus =>
    session.sentMessage request (session.exchange request response checkStatus).request
  | sendOnly request => session.sentMessage request (session.sendOnly request).2.2
  | _ => []

def outcome? : Operation → Option (Except Fault Unit)
  | exchange request response checkStatus =>
    some (session.exchange request response checkStatus).result
  | sendOnly request => some (session.sendOnly request).1
  | _ => none

variable {session} {operation : Operation}

/-- A request that fits is handed over in one frame, and it is sent if the transport takes it. -/
theorem written_of_fits {request : Packet} (hrequest : operation.request? = some request)
    (hfits : request.Fits) :
    (operation.traffic session).written = [session.wireFrame request] ∧
      (session.sendOnly request).1 = (session.transport.write (session.wireFrame request)).1 := by
  refine ⟨?_, (session.transmit_of_fits request hfits).1⟩
  rw [(traffic_records session operation).1, frames, hrequest]
  exact if_pos hfits

/-- A request that does not fit is refused before anything is written or waited for. -/
theorem outcome?_of_not_fits {request : Packet} (hrequest : operation.request? = some request)
    (hfits : ¬ request.Fits) :
    operation.outcome? session = some (.error (session.refusal request)) ∧
      (operation.apply session).transport = session.transport := by
  have hrefused := session.transmit_of_not_fits request hfits
  cases operation with
  | enableSigning signer start => simp [request?] at hrequest
  | disableSigning => simp [request?] at hrequest
  | receiveResponse response command checkStatus => simp [request?] at hrequest
  | receiveAsync packet wait => simp [request?] at hrequest
  | sendOnly called =>
    obtain rfl := Option.some.inj hrequest
    rw [outcome?, apply, Session.sendOnly, hrefused]
    exact ⟨rfl, rfl⟩
  | exchange called response checkStatus =>
    obtain rfl := Option.some.inj hrequest
    obtain ⟨hresult, hcore, -⟩ := session.exchange_of_not_sent called response checkStatus
      (congrArg Prod.fst hrefused)
    rw [outcome?, apply, hresult, (Session.eq_of_core_eq hcore).1, hrefused]
    exact ⟨rfl, rfl⟩

theorem putAll_sent
    (hwrites : ∀ frame ∈ (operation.traffic session).written,
      (session.transport.write frame).1 = .ok ()) :
    Framing.full.putAll session.outgoing ((operation.sent session).map .message) =
      (.ok (), (operation.apply session).outgoing) := by
  rw [(traffic_records session operation).1] at hwrites
  cases operation with
  | enableSigning signer start => rfl
  | disableSigning => rfl
  | sendOnly request => exact Session.putAll_sentMessage hwrites Session.message_transmit
  | exchange request response checkStatus =>
    rw [apply, session.outgoing_exchange request response checkStatus]
    exact Session.putAll_sentMessage hwrites (Session.message_exchange response checkStatus)
  | receiveResponse response command checkStatus =>
    rw [apply, Session.receiveResponse, Session.outgoing_await]
    rfl
  | receiveAsync packet wait =>
    rw [apply, Session.outgoing_receiveAsync]
    rfl

end Operation

/-! ## Runs -/

/-- What a caller does with a session and its transport: a step of the session, or a keep-alive. -/
inductive Turn where
  | onSession (step : Step)
  | keepAlive

namespace Turn

variable (session : Session Connection)

def apply : Turn → Session Connection
  | onSession step => step.apply session
  | keepAlive => session.mapTransport fun transport => (Transport.sendKeepAlive transport).2

/-- The frames that are handed to the transport during a turn. -/
def written : Turn → List Bytes
  | onSession step =>
    match step.operation? session with
    | some operation => (operation.traffic session).written
    | none => []
  | keepAlive => [Frame.keepAlive]

/-- What an encoder would be given during a turn. -/
def entries : Turn → List Framing.Entry
  | onSession step =>
    match step.operation? session with
    | some operation => (operation.sent session).map .message
    | none => []
  | keepAlive => [.keepAlive .alive rfl]

variable {session} {turn : Turn}

/-- One turn: the connection has been written to as an encoder would have done it. -/
theorem putAll_entries
    (hwrites : ∀ frame ∈ turn.written session, (session.transport.write frame).1 = .ok ()) :
    Framing.full.putAll session.outgoing (turn.entries session) =
      (.ok (), (turn.apply session).outgoing) := by
  cases turn with
  | keepAlive =>
    have htaken : (session.transport.pipe.write Frame.keepAlive).1 = .ok () :=
      hwrites _ (List.mem_singleton_self _)
    simp only [entries, Framing.putAll, Framing.put, Whole.bytes_alive]
    exact congrArg (Prod.mk _) (Pipe.outgoing_write htaken).symm
  | onSession step =>
    rw [written] at hwrites
    rw [entries, apply]
    cases hoperation : step.operation? session with
    | some operation =>
      rw [hoperation] at hwrites
      rw [(Step.apply_of_operation? hoperation).1]
      exact Operation.putAll_sent hwrites
    | none =>
      cases step with
      | call operation => simp [Step.operation?] at hoperation
      | poll packet => simp [Step.operation?] at hoperation
      | pause duration =>
        exact congrArg (Prod.mk _)
          (session.transport.pipe.outgoing_sleep duration).symm

end Turn

namespace Session

def afterTurns (session : Session Connection) (turns : List Turn) : Session Connection :=
  turns.foldl Turn.apply session

/-- What an encoder would be given during turns. -/
def entries (session : Session Connection) : List Turn → List Framing.Entry
  | [] => []
  | turn :: turns => turn.entries session ++ (turn.apply session).entries turns

/-- The transport takes whatever frames it is handed during turns. -/
def WritesSucceed (session : Session Connection) : List Turn → Prop
  | [] => True
  | turn :: turns =>
    (∀ frame ∈ turn.written session, (session.transport.write frame).1 = .ok ()) ∧
      (turn.apply session).WritesSucceed turns

theorem putAll_entries {session : Session Connection} {turns : List Turn}
    (hwrites : session.WritesSucceed turns) :
    Framing.full.putAll session.outgoing (session.entries turns) =
      (.ok (), (session.afterTurns turns).outgoing) := by
  induction turns generalizing session with
  | nil => rfl
  | cons turn turns ih =>
    obtain ⟨hfirst, hothers⟩ := hwrites
    rw [entries, Framing.putAll_append (Turn.putAll_entries hfirst)]
    exact ih hothers

/-- Over any run whose writes succeed, the bytes on the wire are what the default encoder writes
for the messages of the requests that are sent, as sending leaves them, with the keep-alives
between them, so that a decoder finds these messages in order and nothing else.  No packet has a
frame that sending refuses: the header written in place is the one of the encoder.  A request that
fits its buffer is handed over in one frame, and one that does not fit is refused with nothing
written. -/
theorem wire_eq_encoded (session : Session Connection) (turns : List Turn)
    (hwrites : session.WritesSucceed turns) :
    (∃ wire, (session.afterTurns turns).outgoing = session.outgoing ++ wire ∧
        Framing.full.putAll session.outgoing (session.entries turns) =
          (.ok (), session.outgoing ++ wire) ∧
        Framing.full.decodeAll wire = ⟨Framing.pauses (session.entries turns),
          Framing.payloads (session.entries turns), none, []⟩) ∧
      (∀ packet : Packet, packet.totalLength ≤ 66080 ∧
        packet.totalLength < Frame.maximumLength ∧
        ∀ frame, packet.frame = .ok frame →
          ∃ message encoded, packet.message = .ok message ∧
            Framing.full.encode message = .ok encoded ∧
            Frame.writeHeader frame (frame.length - Frame.headerLength) = .ok encoded ∧
            ∀ transport : Connection,
              (Transport.send transport frame).result = (transport.write encoded).1 ∧
                (Transport.send transport frame).transport = (transport.write encoded).2) ∧
      ∀ (operation : Operation) (request : Packet), operation.request? = some request →
        (request.Fits → ∃ frame, (operation.traffic session).written = [frame] ∧
          (session.sendOnly request).1 = (session.transport.write frame).1) ∧
        (¬ request.Fits →
          operation.outcome? session = some (.error (session.refusal request)) ∧
            (operation.apply session).transport = session.transport) := by
  refine ⟨?_, fun packet => ⟨packet.totalLength_le, ?_, fun frame hframe => ?_⟩, ?_⟩
  · have hput := putAll_entries hwrites
    obtain ⟨wire, hwire, htakes⟩ := Framing.full.takes_putAll (session.entries turns)
      (Framing.length_le_of_putAll hput) session.outgoing
    refine ⟨wire, congrArg Prod.snd (hput.symm.trans hwire), hwire, ?_⟩
    rw [Framing.decodeAll_of_takes htakes, Framing.decodeAll_nil, Framing.Yield.behind,
      Nat.add_zero, List.append_nil]
  · exact Nat.lt_of_le_of_lt packet.totalLength_le (by decide)
  · obtain ⟨message, hmessage, hencoded, hfilled, hsend⟩ := packet.send_frame hframe
    exact ⟨message, _, hmessage, hencoded, hfilled, hsend⟩
  · intro operation request hrequest
    exact ⟨fun hfits => ⟨_, Operation.written_of_fits hrequest hfits⟩,
      fun hfits => Operation.outcome?_of_not_fits hrequest hfits⟩

/-- Two signed requests with a keep-alive before each of them, and one that its buffer is too short
for.  The request of the exchange has an id of its own. -/
theorem wire_eq_encoded_around_refused :
    let signer : Signer := ⟨fun _ _ => ⟨List.replicate 8 0x51, rfl⟩, fun _ _ => true⟩
    let answer : Bytes := [0, 0, 0, 35] ++ Packet.marker ++ [0x2B] ++ List.replicate 30 0
    let session : Session Connection := Session.new
      ((Connection.new 1000).mapPipe (·.schedule 10 (.send answer))) (.channel ⟨true⟩)
      ⟨true, 7, 100, 50, 549, false⟩
    let packet := Packet.blank 549 (by decide)
    let named := (packet.setCommand 0x2B).set .multiplexId 9
    let long := (packet.set .wordCount 255).setByteCount 0xFFFF
    let turns : List Turn := [.onSession (.call (.enableSigning signer 1)), .keepAlive,
      .onSession (.call (.sendOnly packet)), .onSession (.call (.sendOnly long)), .keepAlive,
      .onSession (.call (.exchange named packet true))]
    let header : Bytes := [0, 0, 0, 0, 0, 4, 0, 0, 0] ++ List.replicate 8 0x51 ++ [0, 0, 0, 0]
    Framing.full.decodeAll (session.afterTurns turns).outgoing = ⟨2,
      [Packet.marker ++ [0] ++ header ++ [7, 0, 0, 0, 1, 0, 0, 0, 0],
        Packet.marker ++ [0x2B] ++ header ++ [7, 0, 0, 0, 9, 0, 0, 0, 0]], none, []⟩ ∧
      (session.exchange long packet true).result =
        .error (.bufferOverflow 0 66084 549) := by
  intro signer answer session packet named long turns header
  have hwrites : session.WritesSucceed turns :=
    ⟨by decide +kernel, by decide +kernel, by decide +kernel, by decide +kernel, by decide +kernel,
      by decide +kernel, trivial⟩
  have hpauses : Framing.pauses (session.entries turns) = 2 := by decide +kernel
  have hpayloads : Framing.payloads (session.entries turns) =
      [Packet.marker ++ [0] ++ header ++ [7, 0, 0, 0, 1, 0, 0, 0, 0],
        Packet.marker ++ [0x2B] ++ header ++ [7, 0, 0, 0, 9, 0, 0, 0, 0]] := by
    decide +kernel
  have hlong : long.totalLength = 66080 ∧ long.capacity = 549 := by decide +kernel
  obtain ⟨⟨wire, hwire, -, hdecoded⟩, -, hrefused⟩ := wire_eq_encoded session turns hwrites
  obtain ⟨houtcome, -⟩ := (hrefused (.exchange long packet true) long rfl).2 (by decide +kernel)
  constructor
  · rw [hwire, show session.outgoing = [] from rfl, List.nil_append, hdecoded, hpauses, hpayloads]
  · rw [Option.some.inj houtcome, refusal, show session.signer = none from rfl, hlong.1, hlong.2]
    rfl

end Session

end SmbExchange

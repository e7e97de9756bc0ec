import SmbExchange.Proofs.Packet.View
import SmbExchange.Proofs.Session.Accounting
import SmbExchange.Proofs.Session.Correlation
import SmbExchange.Proofs.Signing

/-!
# Two parties that sign

A client and a server with one key count on their own.  A round is a request of
the client, any number of messages with other commands, and the reply.  The
client uses up a number for its request and one for the reply, the server two
for the round, so two parties that start at one number are at one number after
every round, and each verifies what the other has signed.
-/

namespace SmbExchange

open Transport (Delivers)

namespace Session

variable {τ : Type} [Transport τ]

/-! ## An exchange that is answered -/

/-- A wait whose answer comes behind messages with other commands: the answer gives the result and
uses up a number, the other messages use up none. -/
theorem await_of_answered {session : Session τ} {response : Packet} {others : List Bytes}
    {reply : Bytes} {last : τ} (checkStatus : Bool)
    (hothers : ∀ message ∈ others,
      ¬ Decides response.messageRoom response.expectedCommand message)
    (hanswers : Answers response.messageRoom response.expectedCommand reply)
    (hdelivers : Delivers session.settings.responseWait session.transport (others ++ [reply])
      last) :
    (session.await response checkStatus).1 =
        (if session.refusesSignature reply then .error .signatureMismatch
        else if checkStatus then (session.await response checkStatus).2.2.checkForError
        else .ok ()) ∧
      (session.await response checkStatus).2.2.Shows reply ∧
      (session.await response checkStatus).2.1.transport = last ∧
      (session.await response checkStatus).2.1.signer = session.signer ∧
      (session.await response checkStatus).2.1.sequence = session.advance.sequence := by
  obtain ⟨middle, hbefore, hnext, hlast⟩ := Transport.delivers_append.mp hdelivers
  obtain ⟨hroom, hcommand⟩ := foldl_fill_keeps response others
  obtain ⟨-, hsettings, hsigner, hsequence⟩ := passOverAll_effect session response others
  have hreached := transport_passOverAll response hbefore
  rw [await_passOverAll hbefore hothers]
  generalize session.passOverAll response others = passed at hsettings hsigner hsequence hreached
  generalize others.foldl Packet.fill response = filled at hroom hcommand
  have hlater : (Transport.next passed.transport passed.settings.responseWait).arrival =
      .message reply := by
    rw [hreached, hsettings]
    exact hnext
  rw [← hroom, ← hcommand] at hanswers
  have hshows := Packet.shows_fill hanswers.1
  have hrefuses : (passed.took filled reply).refusesSignature reply =
      session.refusesSignature reply := refusesSignature_congr hsigner hsettings hsequence reply
  obtain ⟨-, -, -, hendSigner, hendSequence, -⟩ := eq_of_core_eq
    (core_conclude (passed.took filled reply) (filled.fill reply) reply.length checkStatus)
  rw [await_of_answers hlater hanswers]
  refine ⟨?_, hshows, ?_, ?_, ?_⟩
  · rw [fst_conclude, hshows, hrefuses]
  · rw [transport_conclude, transport_took, hreached, hsettings]
    exact hlast
  · rw [hendSigner]
    exact hsigner
  · rw [hendSequence, advance, advance]
    change (if passed.signer.isSome then passed.sequence + 1 else passed.sequence) = _
    rw [hsigner, hsequence]

/-- Request and answer of an exchange use up a number each. -/
theorem exchange_of_answered (session : Session τ) (request response : Packet)
    (checkStatus : Bool) {others : List Bytes} {reply : Bytes} {last : τ}
    (hsent : (session.sendOnly request).1 = .ok ())
    (hothers : ∀ message ∈ others,
      ¬ Decides response.messageRoom request.expectedCommand message)
    (hanswers : Answers response.messageRoom request.expectedCommand reply)
    (hdelivers : Delivers session.settings.responseWait (session.afterSending request).transport
      (others ++ [reply]) last) :
    (session.exchange request response checkStatus).result =
        (if session.advance.refusesSignature reply then .error .signatureMismatch
        else if checkStatus then
          (session.exchange request response checkStatus).response.checkForError
        else .ok ()) ∧
      (session.exchange request response checkStatus).response.Shows reply ∧
      (session.exchange request response checkStatus).session.transport = last ∧
      (session.exchange request response checkStatus).session.signer = session.signer ∧
      (session.exchange request response checkStatus).session.sequence =
        session.advance.advance.sequence := by
  obtain ⟨sent, hcore, hresult, hafter, hfound⟩ :=
    session.exchange_of_sent request response checkStatus hsent
  obtain ⟨htransport, -, hsettings, hsigner, hsequence, -⟩ :=
    eq_of_core_eq (hcore.trans (core_afterSending hsent))
  obtain ⟨hend, -, -, hendSigner, hendSequence, -⟩ := eq_of_core_eq hafter
  have hwait : sent.settings.responseWait = session.settings.responseWait :=
    congrArg Settings.responseWait hsettings
  have hroom := messageRoom_awaiting response request.expectedCommand
  rw [← htransport, ← hwait] at hdelivers
  rw [← hroom] at hothers hanswers
  obtain ⟨hended, hshows, hleft, hkept, hused⟩ :=
    await_of_answered checkStatus hothers hanswers hdelivers
  have hrefuses : sent.refusesSignature reply = session.advance.refusesSignature reply :=
    refusesSignature_congr hsigner hsettings hsequence reply
  rw [hresult, hfound, hend, hendSigner, hendSequence]
  refine ⟨?_, hshows, hleft, ?_, ?_⟩
  · rw [hended, hrefuses]
  · rw [hkept, hsigner]
    rfl
  · rw [hused, advance, advance]
    change (if sent.signer.isSome then sent.sequence + 1 else sent.sequence) = _
    rw [hsigner, hsequence]
    rfl

end Session

/-- The status of a packet has nothing to do with its signature. -/
theorem Packet.checkForError_ne_signatureMismatch (packet : Packet) :
    packet.checkForError ≠ .error .signatureMismatch := by
  intro hmismatch
  rw [checkForError] at hmismatch
  split at hmismatch
  · contradiction
  · have hstatus := Fault.status?_ofStatus packet.status
    rw [Except.error.inj hmismatch] at hstatus
    cases hstatus

/-! ## The parties -/

structure Server where
  signer : Signer
  counter : UInt32

namespace Server

/-- The message in a frame is signed with the number that the server is at. -/
def accepts (server : Server) (frame : Bytes) : Bool :=
  server.signer.verify (frame.drop Frame.headerLength) server.counter

def next (server : Server) : Server :=
  { server with counter := server.counter + 2 }

end Server

/-- A request, what the client waits with, and what the server sends. -/
structure Round where
  request : Packet
  response : Packet
  checkStatus : Bool
  others : List Bytes
  reply : Bytes

structure Parties (τ : Type) where
  client : Session τ
  server : Server

namespace Parties

variable {τ : Type}

/-- Both parties get one key and one number. -/
def start (session : Session τ) (key : Bytes) (number : UInt32) : Parties τ :=
  ⟨session.enableSigning (.hmac key) number, ⟨.hmac key, number⟩⟩

/-- Both parties sign with one keyed hash, and are at one number. -/
structure InStep (mac : Bytes → Signer.Tag) (parties : Parties τ) : Prop where
  client_signer : parties.client.signer = some (.ofMac mac)
  server_signer : parties.server.signer = .ofMac mac
  sequence_eq : parties.client.sequence = parties.server.counter

variable [Transport τ] (parties : Parties τ) (round : Round)

def exchange : Session.Exchanged τ :=
  parties.client.exchange round.request round.response round.checkStatus

def play : Parties τ :=
  ⟨(parties.exchange round).session, parties.server.next⟩

/-- The request fits its packet and is taken.  Then the messages of the server come in time, each
with a header and not too long: some with other commands, and the reply, which is signed with the
number after that of the request. -/
structure Honest : Prop where
  fits : round.request.Fits
  taken : (parties.client.handOver round.request).1 = .ok ()
  others_command : ∀ message ∈ round.others, message.byteAt 4 ≠ round.request.expectedCommand
  reply_command : round.reply.byteAt 4 = round.request.expectedCommand
  reply_signed : Signature.embedded? round.reply =
    some (parties.server.signer.sign round.reply (parties.server.counter + 1))
  lengths : ∀ message ∈ round.others ++ [round.reply],
    Packet.minimumMessage ≤ message.length ∧ message.length ≤ round.response.messageRoom
  delivered : ∃ last, Delivers parties.client.settings.responseWait
    (parties.client.handOver round.request).2 (round.others ++ [round.reply]) last

/-- Every round is honest in the state that the rounds before it lead to. -/
def HonestRun (parties : Parties τ) : List Round → Prop
  | [] => True
  | round :: rounds => parties.Honest round ∧ (parties.play round).HonestRun rounds

/-- A round goes well: the server accepts the request, the exchange ends with the status of the
reply, and the parties are at one number again. -/
structure Agrees : Prop where
  accepted : ∃ frame, ((Operation.exchange round.request round.response
    round.checkStatus).traffic parties.client).written = [frame] ∧
      parties.server.accepts frame = true
  result_eq : (parties.exchange round).result =
    if round.checkStatus then (parties.exchange round).response.checkForError else .ok ()
  shows : (parties.exchange round).response.Shows round.reply
  verified : (parties.exchange round).result ≠ .error .signatureMismatch
  sequence_eq : (parties.play round).client.sequence = (parties.play round).server.counter

variable {parties round} {mac : Bytes → Signer.Tag}

/-- The request of a party in step is accepted. -/
theorem accepted_of_inStep (hstep : parties.InStep mac) (hfits : round.request.Fits) :
    ∃ frame, ((Operation.exchange round.request round.response
      round.checkStatus).traffic parties.client).written = [frame] ∧
        parties.server.accepts frame = true := by
  have hwritten := ((Operation.exchange round.request round.response
    round.checkStatus).traffic_records parties.client).1
  have hframes : (Operation.exchange round.request round.response
      round.checkStatus).frames parties.client = [parties.client.wireFrame round.request] :=
    if_pos hfits
  refine ⟨_, hwritten.trans hframes, ?_⟩
  obtain ⟨message, hlong, hframe⟩ :=
    parties.client.signedWith_wireFrame round.request hstep.client_signer hfits
  rw [hframe, Server.accepts, hstep.server_signer, hstep.sequence_eq]
  exact Signer.verify_ofMac_patch mac parties.server.counter hlong

/-- The exchange of an honest round, whoever has signed the reply. -/
theorem exchange_of_honest (hhonest : parties.Honest round) {last : τ}
    (hdelivers : Delivers parties.client.settings.responseWait
      (parties.client.handOver round.request).2 (round.others ++ [round.reply]) last) :
    (parties.exchange round).result =
        (if parties.client.advance.refusesSignature round.reply then .error .signatureMismatch
        else if round.checkStatus then (parties.exchange round).response.checkForError
        else .ok ()) ∧
      (parties.exchange round).response.Shows round.reply ∧
      (parties.play round).client.transport = last ∧
      (parties.play round).client.signer = parties.client.signer ∧
      (parties.play round).client.sequence = parties.client.advance.advance.sequence := by
  apply Session.exchange_of_answered
  · exact (parties.client.transmit_of_fits round.request hhonest.fits).1.trans hhonest.taken
  · intro message hmessage
    have hlength := hhonest.lengths message (List.mem_append_left _ hmessage)
    exact Session.not_decides_iff.mpr
      ⟨hlength.2, hlength.1, hhonest.others_command message hmessage⟩
  · have hlength := hhonest.lengths round.reply (by simp)
    exact ⟨hlength.2, hlength.1, hhonest.reply_command⟩
  · rw [Session.transport_afterSending hhonest.fits]
    exact hdelivers

/-- A round of parties in step goes well, and leaves them in step. -/
theorem agrees_and_inStep_play (hstep : parties.InStep mac) (hhonest : parties.Honest round) :
    parties.Agrees round ∧ (parties.play round).InStep mac := by
  obtain ⟨last, hdelivers⟩ := hhonest.delivered
  obtain ⟨hresult, hshows, -, hsigner, hsequence⟩ := exchange_of_honest hhonest hdelivers
  have hsigned := parties.client.advance_of_signed hstep.client_signer
  have hnumber : parties.client.advance.sequence = parties.server.counter + 1 := by
    rw [hsigned, ← hstep.sequence_eq]
  have hverifies :
      (Signer.ofMac mac).verify round.reply parties.client.advance.sequence = true := by
    rw [Signer.verify_ofMac_iff, hhonest.reply_signed, hstep.server_signer, hnumber]
  have hunrefused : parties.client.advance.refusesSignature round.reply = false := by
    have hkept : parties.client.advance.signer = some (.ofMac mac) := hstep.client_signer
    rw [Session.refusesSignature, hkept]
    simp only [hverifies, Bool.not_true, Bool.and_false]
  rw [hunrefused, if_neg Bool.false_ne_true] at hresult
  have hsequence_eq : (parties.play round).client.sequence =
      (parties.play round).server.counter := by
    calc (parties.play round).client.sequence
        = parties.client.advance.sequence + 1 := by
          rw [hsequence, parties.client.advance.advance_of_signed hstep.client_signer]
      _ = parties.server.counter + 1 + 1 := by rw [hnumber]
      _ = parties.server.counter + 2 := UInt32.add_assoc ..
  refine ⟨⟨accepted_of_inStep hstep hhonest.fits, hresult, hshows, ?_, hsequence_eq⟩,
    ⟨hsigner.trans hstep.client_signer, hstep.server_signer, hsequence_eq⟩⟩
  rw [hresult]
  split
  · exact Packet.checkForError_ne_signatureMismatch _
  · intro hmismatch
    cases hmismatch

/-- Parties in step see every round of an honest run go well. -/
theorem agrees_of_inStep (earlier : List Round) {later : List Round} (hstep : parties.InStep mac)
    (hrun : parties.HonestRun (earlier ++ round :: later)) :
    (earlier.foldl play parties).Agrees round := by
  induction earlier generalizing parties with
  | nil => exact (agrees_and_inStep_play hstep hrun.1).1
  | cons first earlier ih => exact ih (agrees_and_inStep_play hstep hrun.1).2 hrun.2

omit [Transport τ] in
theorem inStep_start (session : Session τ) (key : Bytes) (number : UInt32) :
    (start session key number).InStep
      fun input => ⟨Hmac.tag key input, Hmac.length_tag key input⟩ :=
  ⟨rfl, rfl, rfl⟩

/-- A client and a server that start with one key and one number agree in every round of an honest
run: the server accepts the request, the client the reply, and both are at one number again.  The
number may go round. -/
theorem agrees_of_honestRun (session : Session τ) (key : Bytes) (number : UInt32)
    (rounds : List Round) (hhonest : (start session key number).HonestRun rounds)
    (earlier later : List Round) (round : Round)
    (hround : earlier ++ round :: later = rounds) :
    (earlier.foldl play (start session key number)).Agrees round := by
  rw [← hround] at hhonest
  exact agrees_of_inStep earlier (inStep_start session key number) hhonest

/-- The number goes round between a request and its reply, a message with another command comes in
between, and a second round follows. -/
theorem agrees_of_honestRun_around :
    let key : Bytes := [0x4B, 0x65, 0x79]
    let message : Bytes := Packet.marker ++ [0x2B] ++ List.replicate 30 0
    let other : Bytes := Packet.marker ++ [0x24] ++ List.replicate 27 7
    let reply (number : UInt32) : Bytes :=
      message.patch Signature.fieldStart ((Signer.hmac key).sign message number).val
    let session : Session Replay :=
      Session.new ⟨[other, reply 0, reply 2]⟩ (.channel ⟨true⟩) ⟨true, 1, 100, 100, 549, false⟩
    let request := (Packet.blank 549 (by decide)).setCommand 0x2B
    let response := Packet.blank 549 (by decide)
    let first : Round := ⟨request, response, true, [other], reply 0⟩
    let second : Round := ⟨request, response, true, [], reply 2⟩
    let parties := start session key 0xFFFFFFFF
    parties.HonestRun [first, second] ∧ parties.Agrees first ∧
      (parties.play first).Agrees second := by
  intro key message other reply session request response first second parties
  have hlength (number : UInt32) : (reply number).length = 35 := Bytes.length_patch ..
  have hcommand (number : UInt32) : (reply number).byteAt 4 = 0x2B := by
    rw [Bytes.byteAt, List.getD_eq_getElem?_getD, Bytes.getElem?_patch,
      if_neg fun hinside => absurd hinside.1 (by decide)]
    rfl
  have hsigned (number : UInt32) : Signature.embedded? (reply number) =
      some ((Signer.hmac key).sign (reply number) number) :=
    (Signer.verify_ofMac_iff _ _ _).mp (Signer.verify_ofMac_patch _ number (by decide))
  have hfits : request.Fits := by decide +kernel
  have hroom : response.messageRoom = 545 := by decide +kernel
  have hother : other.byteAt 4 ≠ 0x2B ∧ other.length = 32 := by decide
  have hround : (0xFFFFFFFF : UInt32) + 1 = 0 ∧ (0xFFFFFFFF : UInt32) + 2 + 1 = 2 := by decide
  -- The signatures stay unevaluated: only the lengths and the commands of the replies count.
  clear_value reply
  have hhonest (parties : Parties Replay) (others later : List Bytes) (number : UInt32)
      (hsigner : parties.server.signer = .hmac key)
      (hcounter : parties.server.counter + 1 = number)
      (hleft : parties.client.transport = ⟨others ++ [reply number] ++ later⟩)
      (hothers : ∀ message ∈ others, message = other) :
      parties.Honest ⟨request, response, true, others, reply number⟩ := by
    refine ⟨hfits, rfl, ?_, hcommand number, ?_, ?_, ⟨⟨later⟩, ?_⟩⟩
    · intro message hmessage
      rw [hothers message hmessage]
      exact hother.1
    · rw [hsigner, hcounter]
      exact hsigned number
    · intro message hmessage
      rcases List.mem_append.mp hmessage with hbefore | hreply
      · rw [hothers message hbefore, hother.2, hroom]
        decide
      · rw [List.mem_singleton.mp hreply, hlength, hroom]
        decide
    · change Delivers _ parties.client.transport _ _
      rw [hleft]
      exact Replay.delivers _ (others ++ [reply number]) later
  have hfirst : parties.Honest first :=
    hhonest parties [other] [reply 2] 0 rfl hround.1 rfl (by simp)
  have hleft : (parties.play first).client.transport = ⟨[reply 2]⟩ :=
    (exchange_of_honest hfirst (Replay.delivers _ [other, reply 0] [reply 2])).2.2.1
  have hsecond : (parties.play first).Honest second :=
    hhonest (parties.play first) [] [] 2 rfl hround.2 hleft (by simp)
  have hrun : parties.HonestRun [first, second] := ⟨hfirst, hsecond, trivial⟩
  exact ⟨hrun, agrees_of_honestRun session key 0xFFFFFFFF _ hrun [] [second] first rfl,
    agrees_of_honestRun session key 0xFFFFFFFF _ hrun [first] [] second rfl⟩

end Parties

end SmbExchange

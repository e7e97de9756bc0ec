import SmbExchange.Proofs.Packet.View
import SmbExchange.Proofs.Session.Correlation

/-!
# What a response shows besides its own message

A wait fills one buffer again and again: a message that answers lies over the
messages that were passed over, and these lie over what was there before.  A
response therefore shows its own message alone exactly when that message is
self-contained.
-/

namespace SmbExchange.Session

open Packet (SameView SelfContained Shows)
open Transport (Delivers)

/-- `MatchedRun capacity message found` says that some exchange or some wait for
a further response, with a response packet of the given capacity, ended with
the message as the answer and left the packet `found`. -/
inductive MatchedRun (capacity : Nat) (message : Bytes) : Packet → Prop where
  /-- An exchange whose request is sent. -/
  | exchange {τ : Type} [Transport τ] {session : Session τ} {request response : Packet}
      {checkStatus : Bool} {before : List Bytes} {last : τ}
      (hcapacity : response.capacity = capacity)
      (hsent : (session.sendOnly request).1 = .ok ())
      (hothers : ∀ earlier ∈ before,
        ¬ Decides response.messageRoom request.expectedCommand earlier)
      (hanswers : Answers response.messageRoom request.expectedCommand message)
      (hdelivers : Delivers session.settings.responseWait
        (session.afterSending request).transport (before ++ [message]) last) :
      MatchedRun capacity message (session.exchange request response checkStatus).response
  /-- A wait for a further response. -/
  | receiveResponse {τ : Type} [Transport τ] {session : Session τ} {response : Packet}
      {command : UInt8} {checkStatus : Bool} {before : List Bytes} {last : τ}
      (hcapacity : response.capacity = capacity)
      (hothers : ∀ earlier ∈ before, ¬ Decides response.messageRoom command earlier)
      (hanswers : Answers response.messageRoom command message)
      (hdelivers : Delivers session.settings.responseWait session.transport
        (before ++ [message]) last) :
      MatchedRun capacity message (session.receiveResponse response command checkStatus).2.2

/-! ## The response packet -/

section Response

variable {τ : Type} [Transport τ] (session : Session τ) (response : Packet)
variable {before : List Bytes} {message : Bytes} {last : τ}

/-- The packet that a matched wait leaves: every message that was taken, one over
the other. -/
theorem response_await_of_answers (checkStatus : Bool)
    (hothers : ∀ earlier ∈ before,
      ¬ Decides response.messageRoom response.expectedCommand earlier)
    (hanswers : Answers response.messageRoom response.expectedCommand message)
    (hdelivers : Delivers session.settings.responseWait session.transport
      (before ++ [message]) last) :
    (session.await response checkStatus).2.2 =
      (before.foldl Packet.fill response).fill message := by
  obtain ⟨middle, hbefore, hnext, -⟩ := Transport.delivers_append.mp hdelivers
  obtain ⟨-, hsettings, -⟩ := passOverAll_effect session response before
  obtain ⟨hroom, hcommand⟩ := foldl_fill_keeps response before
  rw [await_passOverAll hbefore hothers, await_of_answers]
  · rw [transport_passOverAll response hbefore, hsettings]
    exact hnext
  · rw [hroom, hcommand]
    exact hanswers

/-- The response packet of an exchange is filled with one message over the other, the answer
last. -/
theorem response_exchange_of_answers (request : Packet) (checkStatus : Bool)
    (hsent : (session.sendOnly request).1 = .ok ())
    (hothers : ∀ earlier ∈ before,
      ¬ Decides response.messageRoom request.expectedCommand earlier)
    (hanswers : Answers response.messageRoom request.expectedCommand message)
    (hdelivers : Delivers session.settings.responseWait (session.afterSending request).transport
      (before ++ [message]) last) :
    (session.exchange request response checkStatus).response =
      (before.foldl Packet.fill (awaiting response request.expectedCommand)).fill message := by
  obtain ⟨sent, hcore, -, -, hresponse⟩ :=
    session.exchange_of_sent request response checkStatus hsent
  obtain ⟨htransport, hwait⟩ := waiting_of_core_eq hcore hsent
  rw [← messageRoom_awaiting response request.expectedCommand] at hothers hanswers
  rw [← htransport, ← hwait] at hdelivers
  rw [hresponse]
  exact response_await_of_answers sent _ checkStatus hothers hanswers hdelivers

/-- A packet that is filled with a message over other messages has its capacity and shows the
message. -/
theorem shows_foldl_fill (response : Packet) (before : List Bytes) {message : Bytes}
    (hfits : message.length ≤ response.messageRoom) :
    ((before.foldl Packet.fill response).fill message).capacity = response.capacity ∧
      ((before.foldl Packet.fill response).fill message).Shows message := by
  obtain ⟨hroom, -⟩ := foldl_fill_keeps response before
  constructor
  · rw [Packet.capacity_fill]
    exact capacity_foldl_fill response before
  · exact Packet.shows_fill (hroom ▸ hfits)

end Response

/-- Whatever run it was that the message answered, the packet shows the message. -/
theorem MatchedRun.shows {capacity : Nat} {message : Bytes} {found : Packet}
    (hrun : MatchedRun capacity message found) :
    found.capacity = capacity ∧ found.Shows message := by
  cases hrun with
  | @exchange _ _ session request response checkStatus before _ hcapacity hsent hothers hanswers
      hdelivers =>
    rw [response_exchange_of_answers session response request checkStatus hsent hothers hanswers
      hdelivers]
    obtain ⟨hkept, hshows⟩ := shows_foldl_fill (awaiting response request.expectedCommand) before
      (Nat.le_trans hanswers.1 (Nat.le_of_eq (messageRoom_awaiting response _).symm))
    exact ⟨hkept.trans ((Packet.capacity_reset response).trans hcapacity), hshows⟩
  | @receiveResponse _ _ session response command checkStatus before _ hcapacity hothers hanswers
      hdelivers =>
    rw [← messageRoom_awaiting response command] at hothers hanswers
    obtain ⟨hkept, hshows⟩ := shows_foldl_fill (awaiting response command) before hanswers.1
    rw [Session.receiveResponse,
      response_await_of_answers session _ checkStatus hothers hanswers hdelivers]
    exact ⟨hkept.trans ((Packet.capacity_reset response).trans hcapacity), hshows⟩

/-! ## A buffer full of one byte -/

section Stained

variable {capacity : Nat} {message : Bytes}

/-- The message that takes all the room of a buffer and repeats one byte. -/
def stain (capacity : Nat) (filler : UInt8) : Bytes :=
  List.replicate (capacity - Packet.headerRoom) filler

@[simp]
theorem length_stain (capacity : Nat) (filler : UInt8) :
    (stain capacity filler).length = capacity - Packet.headerRoom :=
  List.length_replicate

theorem getElem?_stain {index : Nat} (filler : UInt8)
    (hinside : index < capacity - Packet.headerRoom) :
    (stain capacity filler)[index]? = some filler := by
  rw [stain, List.getElem?_replicate, if_pos hinside]

theorem not_decides_stain {filler command : UInt8}
    (hcapacity : Packet.minimumCapacity ≤ capacity) (hfiller : filler ≠ command) :
    ¬ Decides (capacity - Packet.headerRoom) command (stain capacity filler) := by
  simp only [Packet.minimumCapacity] at hcapacity
  have hbyte : (stain capacity filler).byteAt 4 = filler := by
    rw [Bytes.byteAt, List.getD_eq_getElem?_getD,
      getElem?_stain filler (by simp only [Packet.headerRoom]; omega), Option.getD_some]
  rw [not_decides_iff, length_stain, hbyte]
  refine ⟨Nat.le_refl _, ?_, hfiller⟩
  simp only [Packet.minimumMessage, Packet.headerRoom]
  omega

def waiting (hcapacity : Packet.minimumCapacity ≤ capacity) (command : UInt8) : Packet :=
  awaiting (Packet.blank capacity hcapacity) command

theorem capacity_blank (hcapacity : Packet.minimumCapacity ≤ capacity) :
    (Packet.blank capacity hcapacity).capacity = capacity := by
  simp [Packet.blank, Packet.capacity]

theorem capacity_waiting (hcapacity : Packet.minimumCapacity ≤ capacity) (command : UInt8) :
    (waiting hcapacity command).capacity = capacity :=
  (Packet.capacity_reset _).trans (capacity_blank hcapacity)

/-- What a wait leaves when a stain was passed over before the message. -/
def stained (hcapacity : Packet.minimumCapacity ≤ capacity) (message : Bytes)
    (filler : UInt8) : Packet :=
  ((waiting hcapacity (message.byteAt 4)).fill (stain capacity filler)).fill message

theorem matchedRun_stained {filler : UInt8} (hcapacity : Packet.minimumCapacity ≤ capacity)
    (hheader : Packet.minimumMessage ≤ message.length)
    (hfits : Packet.headerRoom + message.length ≤ capacity)
    (hfiller : filler ≠ message.byteAt 4) :
    MatchedRun capacity message (stained hcapacity message filler) := by
  have hroom : (Packet.blank capacity hcapacity).messageRoom =
      capacity - Packet.headerRoom := by
    rw [Packet.messageRoom, capacity_blank]
  have hothers : ∀ earlier ∈ [stain capacity filler],
      ¬ Decides (Packet.blank capacity hcapacity).messageRoom (message.byteAt 4) earlier := by
    intro earlier hearlier
    rw [List.mem_singleton.mp hearlier, hroom]
    exact not_decides_stain hcapacity hfiller
  have hanswers : Answers (Packet.blank capacity hcapacity).messageRoom (message.byteAt 4)
      message := by
    rw [Answers, hroom]
    exact ⟨by omega, hheader, rfl⟩
  let session : Session Replay := Session.new ⟨[stain capacity filler, message]⟩
    (.channel ⟨true⟩) ⟨false, 0, 0, 0, capacity, false⟩
  have hdelivers : Delivers session.settings.responseWait session.transport
      ([stain capacity filler] ++ [message]) (⟨[]⟩ : Replay) :=
    Replay.delivers _ [stain capacity filler, message] []
  have hfound := response_await_of_answers session (waiting hcapacity (message.byteAt 4)) false
    (by rw [waiting, messageRoom_awaiting]; exact hothers)
    (by rw [waiting, messageRoom_awaiting]; exact hanswers) hdelivers
  have hrun : MatchedRun capacity message (session.receiveResponse
      (Packet.blank capacity hcapacity) (message.byteAt 4) false).2.2 :=
    .receiveResponse (capacity_blank hcapacity) hothers hanswers hdelivers
  rw [receiveResponse, ← waiting, hfound] at hrun
  exact hrun

/-- Behind the message a stained buffer repeats the byte of the stain. -/
theorem getElem?_stained (hcapacity : Packet.minimumCapacity ≤ capacity) (filler : UInt8)
    {index : Nat} (hbehind : Packet.headerRoom + message.length ≤ index)
    (hinside : index < capacity) :
    (stained hcapacity message filler).buffer[index]? = some filler := by
  have hready : (waiting hcapacity (message.byteAt 4)).buffer.length = capacity :=
    capacity_waiting hcapacity (message.byteAt 4)
  rw [stained, Packet.fill, Packet.patch, Bytes.getElem?_patch, if_neg (by omega),
    Packet.fill, Packet.patch, Bytes.getElem?_patch,
    if_pos (by rw [hready, length_stain]; omega), getElem?_stain filler (by omega)]

theorem shows_stained (hcapacity : Packet.minimumCapacity ≤ capacity) (filler : UInt8)
    (hfits : Packet.headerRoom + message.length ≤ capacity) :
    (stained hcapacity message filler).capacity = capacity ∧
      (stained hcapacity message filler).Shows message := by
  have hready := capacity_waiting hcapacity (message.byteAt 4)
  constructor
  · rw [stained, Packet.capacity_fill, Packet.capacity_fill, hready]
  · apply Packet.shows_fill
    rw [Packet.messageRoom_fill, Packet.messageRoom, hready]
    omega

/-- If buffers with two different stains look alike, the message is self-contained. -/
theorem selfContained_of_stained {filler other : UInt8}
    (hcapacity : Packet.minimumCapacity ≤ capacity)
    (hfits : Packet.headerRoom + message.length ≤ capacity) (hdistinct : filler ≠ other)
    (hview : SameView (stained hcapacity message filler) (stained hcapacity message other)) :
    SelfContained capacity message := by
  obtain ⟨hleftCapacity, hleft⟩ := shows_stained hcapacity filler hfits
  obtain ⟨hrightCapacity, hright⟩ := shows_stained hcapacity other hfits
  have htold : Packet.ToldApart (stained hcapacity message filler)
      (stained hcapacity message other) message := by
    intro index hbehind hinside
    rw [hleftCapacity] at hinside
    rw [getElem?_stained hcapacity filler hbehind hinside,
      getElem?_stained hcapacity other hbehind hinside]
    exact fun hequal => hdistinct (Option.some.inj hequal)
  have hcontained := Packet.selfContained_of_sameView
    (hleftCapacity.trans hrightCapacity.symm) htold hleft hright hview
  rw [hleftCapacity] at hcontained
  exact hcontained

end Stained

/-! ## Which messages are shown alone -/

/-- All packets in which a message is found as the answer show the same exactly
when the message is self-contained. -/
theorem sameView_of_matchedRun_iff {capacity : Nat} {message : Bytes}
    (hcapacity : Packet.minimumCapacity ≤ capacity)
    (hheader : Packet.minimumMessage ≤ message.length)
    (hfits : Packet.headerRoom + message.length ≤ capacity) :
    (∀ left right : Packet, MatchedRun capacity message left →
      MatchedRun capacity message right → SameView left right) ↔
      SelfContained capacity message := by
  constructor
  · intro hsame
    have hone : message.byteAt 4 + 1 ≠ message.byteAt 4 := by simp
    have htwo : message.byteAt 4 + 2 ≠ message.byteAt 4 := by simp
    have hdistinct : message.byteAt 4 + 1 ≠ message.byteAt 4 + 2 := by simp
    exact selfContained_of_stained hcapacity hfits hdistinct
      (hsame _ _ (matchedRun_stained hcapacity hheader hfits hone)
        (matchedRun_stained hcapacity hheader hfits htwo))
  · intro hcontained left right hleft hright
    obtain ⟨hleftCapacity, hleftShows⟩ := hleft.shows
    obtain ⟨hrightCapacity, hrightShows⟩ := hright.shows
    exact Packet.sameView_of_shows hleftShows hrightShows
      (hleftCapacity.trans hrightCapacity.symm) hheader (hleftCapacity ▸ hcontained)

/-- A message that ends with its own byte count is shown alone. -/
theorem sameView_of_matchedRun_whole :
    let message : Bytes := Packet.marker ++ [0x2B] ++ List.replicate 30 0
    ∀ left right : Packet, MatchedRun 549 message left → MatchedRun 549 message right →
      SameView left right :=
  (sameView_of_matchedRun_iff (by decide) (by decide) (by decide)).mpr (by decide)

/-- A message that ends with its header shows the number of words of the message
that was passed over before it. -/
theorem sameView_of_matchedRun_fails_for_header :
    let message : Bytes := Packet.marker ++ [0x2B] ++ List.replicate 27 0
    ∃ left right : Packet, MatchedRun 549 message left ∧ MatchedRun 549 message right ∧
      left.wordCount = 7 ∧ right.wordCount = 9 ∧ ¬ SameView left right := by
  intro message
  have hseven : (stained (Nat.le_refl 549) message 7).wordCount = 7 := by decide +kernel
  have hnine : (stained (Nat.le_refl 549) message 9).wordCount = 9 := by decide +kernel
  refine ⟨_, _, matchedRun_stained (Nat.le_refl 549) (by decide) (by decide) (by decide),
    matchedRun_stained (Nat.le_refl 549) (by decide) (by decide) (by decide),
    hseven, hnine, fun hview => ?_⟩
  have hcount := hview.wordCount_eq
  rw [hseven, hnine] at hcount
  exact absurd hcount (by decide)

end SmbExchange.Session

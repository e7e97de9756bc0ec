import SmbExchange.Config.Problem
import SmbExchange.Proofs.Frame.RoundTrip
import SmbExchange.Proofs.Packet.Described
import SmbExchange.Proofs.Transport.InTime

/-!
# What a valid configuration is good for

A configuration bounds the size of its packets and the length of its frames in
three places, each on its own.  Together the bounds say that a packet can be
made, that the limit of the frames is taken as it is, and that whatever message
a packet holds goes through a frame into another packet of the same size.
-/

namespace SmbExchange.Config

open SmbExchange.Frame (Whole)

variable {storage : Storage} {config : Config}

/-- The longest payload as a number. -/
def frameLimit (config : Config) : Nat :=
  config.transport.maximumFrame.toNat

/-- The bounds that a valid configuration keeps. -/
structure Bounded (config : Config) : Prop where
  minimum_le : Packet.minimumCapacity ≤ config.settings.bufferSize
  limit_le : config.frameLimit ≤ Frame.maximumLength
  size_le : config.settings.bufferSize ≤ config.frameLimit + Packet.headerRoom

theorem minimum_le_of_problems (hnone : config.client.problems = []) :
    Packet.minimumCapacity ≤ config.client.bufferSize.toNat := by
  simp only [Client.problems, List.append_eq_nil_iff, problemIf_eq_nil_iff, decide_eq_false_iff_not,
    Nat.not_lt] at hnone
  exact hnone.2

theorem limit_le_of_problems (hnone : config.transport.problems = []) :
    config.frameLimit ≤ Frame.maximumLength := by
  simp only [Transport.problems, List.append_eq_nil_iff, problemIf_eq_nil_iff,
    decide_eq_false_iff_not, Nat.not_lt] at hnone
  exact hnone.2

theorem size_le_of_problems (hnone : config.sizeProblems = some []) :
    config.client.bufferSize.toNat ≤ config.frameLimit + Packet.headerRoom := by
  obtain ⟨longest, hspan, hproblems⟩ := Option.map_eq_some_iff.mp hnone
  obtain ⟨-, rfl⟩ := inSpan?_eq_some_iff.mp hspan
  rwa [problemIf_eq_nil_iff, decide_eq_false_iff_not, Nat.not_lt] at hproblems

theorem bounded_of_validate (hvalid : config.validate storage = some (.ok ())) :
    config.Bounded := by
  obtain ⟨hclient, htransport, -, hsize⟩ :=
    (problems_eq_nil_iff storage config).mp ((validate_eq_ok_iff storage config).mp hvalid)
  exact ⟨minimum_le_of_problems hclient, limit_le_of_problems htransport,
    size_le_of_problems hsize⟩

/-- A message goes through a frame of the configured limit into a new packet. -/
structure Carries (config : Config) (fresh : Packet) (message : Bytes) : Prop where
  length_le : message.length ≤ config.frameLimit
  decoded : ∃ wire, (Framing.ofLimit config.frameLimit).encode message = .ok wire ∧
    (Framing.ofLimit config.frameLimit).decode wire = ⟨0, .message message, []⟩
  /-- Whatever has happened to a connection, the frame is received when it arrives in time. -/
  received : ∀ (connection : Connection) (wait : Nat) (front : List Whole) (wire rest : Bytes),
    connection.Reachable → connection.framing = .ofLimit config.frameLimit →
    (∀ other ∈ front, other.kind = Frame.keepAliveKind) →
    (Framing.ofLimit config.frameLimit).encode message = .ok wire →
    connection.arrivingBy (connection.pipe.clock + wait) = Whole.stream front ++ wire ++ rest →
    (Transport.receive connection fresh.messageRoom wait).arrival = .message message
  reads : (fresh.fill message).Reads message

/-- The limit of a valid configuration is not lowered. -/
theorem Bounded.limit_ofLimit (hbounded : config.Bounded) :
    (Framing.ofLimit config.frameLimit).limit = config.frameLimit :=
  Nat.min_eq_left hbounded.limit_le

/-- A message that describes itself and has room in the packets is carried. -/
theorem Bounded.carries (hbounded : config.Bounded) {fresh : Packet} {message : Bytes}
    (hcapacity : fresh.capacity = config.settings.bufferSize)
    (hdescribes : Packet.DescribesItself message)
    (hroom : Packet.headerRoom + message.length ≤ fresh.capacity) :
    config.Carries fresh message := by
  have hsize := hbounded.size_le
  have hlength : message.length ≤ config.frameLimit := by omega
  have hlimit : message.length ≤ (Framing.ofLimit config.frameLimit).limit := by
    rw [hbounded.limit_ofLimit]
    exact hlength
  have hframe := Nat.le_trans hlimit (Framing.ofLimit config.frameLimit).limit_le
  have hencode : (Framing.ofLimit config.frameLimit).encode message =
      .ok (Whole.ofPayload message hframe).bytes := by
    rw [Framing.encode, if_neg (Nat.not_lt.mpr hlimit), Whole.bytes_ofPayload]
  have hfits : message.length ≤ fresh.messageRoom := by
    rw [Packet.messageRoom]
    omega
  refine ⟨hlength, ⟨_, hencode, ?_⟩, ?_, ?_⟩
  · have hdecode : (Framing.ofLimit config.frameLimit).decode
        ((Whole.ofPayload message hframe).bytes ++ []) = ⟨0, .message message, []⟩ :=
      Framing.decode_message rfl hlimit []
    rw [List.append_nil] at hdecode
    exact hdecode
  · intro connection wait front wire rest hreachable hframing hfront hwire harriving
    rw [hencode, Except.ok.injEq] at hwire
    subst hwire
    exact hreachable.receivesNext _ _ front _ rest hfront rfl (hframing ▸ hlimit) hfits harriving
  · exact Packet.reads_of_shows (Packet.shows_fill hfits) hdescribes (by
      rw [Packet.capacity_fill]
      exact hroom)

/-- With a valid configuration new packets can be made, of the configured size; the limit of the
frames is the configured one; and every message that a packet of this size holds is within the
limit, is framed and decoded to the same bytes, and is received into a new packet. -/
theorem messages_carried_of_validate (storage : Storage) (config : Config)
    (hvalid : config.validate storage = some (.ok ())) :
    (Framing.ofLimit config.frameLimit).limit = config.frameLimit ∧
      ∃ fresh : Packet, fresh.capacity = config.client.bufferSize.toNat ∧
        (∀ session : Session Connection, session.settings = config.settings →
          session.newPacket = .ok fresh) ∧
        ∀ (packet : Packet) (message : Bytes), packet.capacity = fresh.capacity →
          packet.message = .ok message → config.Carries fresh message := by
  have hbounded := bounded_of_validate hvalid
  have hcapacity : (Packet.blank config.settings.bufferSize hbounded.minimum_le).capacity =
      config.settings.bufferSize := by
    simp only [Packet.capacity, Packet.blank, Bytes.length_patch, Bytes.length_zeros]
  refine ⟨hbounded.limit_ofLimit, Packet.blank _ hbounded.minimum_le, hcapacity, ?_, ?_⟩
  · intro session hsettings
    rw [Session.newPacket, hsettings, Packet.withCapacity]
    exact dif_pos hbounded.minimum_le
  · intro packet message hsame hmessage
    obtain ⟨-, hdescribes, hroom⟩ := Packet.describesItself_of_message hmessage
    exact hbounded.carries hcapacity hdescribes (hsame ▸ hroom)

/-- The least buffer with the largest frame that it needs, and the longest message it holds. -/
theorem longest_message_carried :
    let config : Config :=
      { default with
        client := { Client.default with bufferSize := 549 }
        transport := { Transport.default with maximumFrame := 545 } }
    let packet := ((Packet.blank 549 (by decide)).setBytes (List.replicate 510 7)).2
    config.validate ⟨[]⟩ = some (.ok ()) ∧
      ∃ fresh message, fresh.capacity = 549 ∧ packet.message = .ok message ∧
        message.length = 545 ∧ config.Carries fresh message := by
  intro config packet
  have hvalid : config.validate ⟨[]⟩ = some (.ok ()) := by
    obtain ⟨-, -, hlogging, -⟩ := (problems_eq_nil_iff ⟨[]⟩ default).mp
      ((validate_eq_ok_iff ⟨[]⟩ default).mp (validate_default ⟨[]⟩))
    rw [validate_eq_ok_iff, problems_eq_nil_iff]
    exact ⟨by decide +kernel, by decide +kernel, hlogging, by decide +kernel⟩
  obtain ⟨-, fresh, hcapacity, -, hcarries⟩ := messages_carried_of_validate ⟨[]⟩ config hvalid
  have hmessage : packet.message =
      .ok (packet.buffer.slice Packet.headerRoom packet.totalLength) := by
    rw [Packet.message_eq]
    exact if_pos (by decide +kernel)
  have hsize : packet.capacity = 549 := by decide +kernel
  refine ⟨hvalid, fresh, _, hcapacity, hmessage, by decide +kernel, ?_⟩
  exact hcarries packet _ (hsize.trans hcapacity.symm) hmessage

end SmbExchange.Config

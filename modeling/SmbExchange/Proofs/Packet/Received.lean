import SmbExchange.Packet.Words
import SmbExchange.Proofs.Bytes.Slices

/-!
# Packets that hold a received message

A transport copies a received message behind the room of the session header
and touches nothing else.  Inside the message the packet shows the message;
past its end it shows whatever was there before.
-/

namespace SmbExchange.Packet

/-- The packet after a message has arrived in its buffer. -/
def fill (packet : Packet) (message : Bytes) : Packet :=
  packet.patch headerRoom message

@[simp]
theorem expectedCommand_fill (packet : Packet) (message : Bytes) :
    (packet.fill message).expectedCommand = packet.expectedCommand := rfl

@[simp]
theorem capacity_fill (packet : Packet) (message : Bytes) :
    (packet.fill message).capacity = packet.capacity :=
  capacity_patch packet headerRoom message

@[simp]
theorem messageRoom_fill (packet : Packet) (message : Bytes) :
    (packet.fill message).messageRoom = packet.messageRoom := by
  simp only [messageRoom, capacity_fill]

theorem add_length_le_of_fits {packet : Packet} {message : Bytes}
    (hfits : message.length ≤ packet.messageRoom) :
    headerRoom + message.length ≤ packet.buffer.length := by
  have hminimum := packet.minimum_le_length
  simp only [messageRoom, capacity, headerRoom] at hfits ⊢
  omega

/-- Inside the message a packet shows the message. -/
theorem slice_fill {packet : Packet} {message : Bytes} {start length : Nat}
    (hfits : message.length ≤ packet.messageRoom)
    (hinside : start + length ≤ message.length) :
    (packet.fill message).buffer.slice (headerRoom + start) length =
      message.slice start length := by
  have hbuffer := add_length_le_of_fits hfits
  rw [fill, patch, Bytes.slice_patch_inside hbuffer (by omega) (by omega),
    Nat.add_sub_cancel_left]

theorem slice_fill_self {packet : Packet} {message : Bytes}
    (hfits : message.length ≤ packet.messageRoom) :
    (packet.fill message).buffer.slice headerRoom message.length = message :=
  Bytes.slice_patch_self (add_length_le_of_fits hfits)

/-- The command of a received message is its fifth byte. -/
theorem command_fill {packet : Packet} {message : Bytes}
    (hfits : message.length ≤ packet.messageRoom)
    (hheader : minimumMessage ≤ message.length) :
    (packet.fill message).command = message.byteAt 4 := by
  have hinside : 4 + 1 ≤ message.length := by
    simp only [minimumMessage] at hheader
    omega
  have hslice := slice_fill hfits hinside
  calc
    (packet.fill message).command =
        LittleEndian.toByte ((packet.fill message).buffer.slice (headerRoom + 4) 1) := rfl
    _ = message.byteAt 4 := by
      rw [hslice, Bytes.toByte_slice_one]

end SmbExchange.Packet

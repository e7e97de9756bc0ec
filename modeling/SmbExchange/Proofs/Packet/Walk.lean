import SmbExchange.Proofs.Packet.Addressing
import SmbExchange.Proofs.Packet.Inspection
import SmbExchange.Proofs.Packet.Position
import SmbExchange.Proofs.Text.Inverse

/-!
# Walking over the byte area

Whatever stands in a buffer, and however far the byte count says that the byte
area goes, reading one string after the other comes to an end.  A string that is
read takes up at least one byte of the buffer, so there are no more of them than
there are bytes behind the place where the walk starts.  Every string of a walk
has a start, because there is more data only in front of the last position.
-/

namespace SmbExchange.Packet

/-! ## One string -/

section Step

variable {packet after : Packet} {unicode : Bool} {text : String} {result : Except Fault String}

/-- A string that was read takes up at least one byte, and all that it takes up is in the buffer. -/
theorem forward_of_unpackString (htext : packet.unpackString unicode = some (.ok text, after)) :
    packet.position < after.position ∧ after.position ≤ packet.capacity := by
  obtain ⟨start, hstart, hread⟩ := Option.map_eq_some_iff.mp htext
  have hfront := le_of_textStart? hstart
  cases hfound : packet.textAt start maximumString unicode with
  | error fault =>
    simp only [hfound] at hread
    cases hread
  | ok found =>
    obtain ⟨found, consumed⟩ := found
    simp only [hfound] at hread
    cases hread
    obtain ⟨-, hend⟩ := extent_of_textAt hfound
    rw [textAt_eq_readText] at hfound
    have hpos := Bytes.pos_of_readText (by decide) hfound
    exact ⟨by dsimp only; omega, hend⟩

theorem capacity_of_unpackString (hstep : packet.unpackString unicode = some (result, after)) :
    after.capacity = packet.capacity :=
  congrArg List.length (frame_of_unpackString hstep).1

/-- Strings are all read in one encoding, since the flags are not written to. -/
theorem isUnicode_of_unpackString (hstep : packet.unpackString unicode = some (result, after)) :
    after.isUnicode = packet.isUnicode := by
  have hbuffer : after.buffer = packet.buffer := (frame_of_unpackString hstep).1
  simp only [isUnicode, flags2, get, hbuffer]

end Step

/-! ## One string after the other -/

/-- Strings are read while there is more data, up to the first that cannot be read. -/
inductive Walk (unicode : Bool) : (packet : Packet) → (texts : List String) → (last : Packet) →
    (ending : Option Fault) → Prop where
  | done {packet : Packet} (hmore : packet.hasMoreData = false) : Walk unicode packet [] packet none
  | stopped {packet last : Packet} {fault : Fault} (hmore : packet.hasMoreData = true)
    (hfault : packet.unpackString unicode = some (.error fault, last)) :
    Walk unicode packet [] last (some fault)
  | step {packet after last : Packet} {text : String} {texts : List String}
    {ending : Option Fault} (hmore : packet.hasMoreData = true)
    (htext : packet.unpackString unicode = some (.ok text, after))
    (hrest : Walk unicode after texts last ending) :
    Walk unicode packet (text :: texts) last ending

section Walk

variable {packet last : Packet} {unicode : Bool} {texts : List String} {ending : Option Fault}

/-- Each string takes up at least one byte, and the walk stays in the buffer. -/
theorem Walk.length_le (hwalk : Walk unicode packet texts last ending)
    (hinside : packet.position ≤ packet.capacity) :
    packet.position + texts.length ≤ last.position ∧ last.position ≤ packet.capacity := by
  induction hwalk with
  | done hmore => exact ⟨Nat.le_refl _, hinside⟩
  | @stopped packet last fault hmore hfault =>
    obtain rfl : last = packet := keptOnFailure_unpackString hfault fault rfl
    exact ⟨Nat.le_refl _, hinside⟩
  | @step packet after last text texts ending hmore htext hrest ih =>
    have hsame := capacity_of_unpackString htext
    obtain ⟨hforward, hafter⟩ := forward_of_unpackString htext
    obtain ⟨hlow, hhigh⟩ := ih (hsame ▸ hafter)
    rw [List.length_cons]
    exact ⟨by omega, hsame ▸ hhigh⟩

/-- Every walk ends: the room behind the cursor shrinks with each string. -/
theorem exists_walk (hlimit : packet.limit < positionSpan) (unicode : Bool) :
    ∃ texts last ending, Walk unicode packet texts last ending := by
  induction hroom : packet.capacity - packet.position using Nat.strongRecOn
    generalizing packet with
  | ind room ih =>
    cases hmore : packet.hasMoreData with
    | false => exact ⟨[], packet, none, .done hmore⟩
    | true =>
      obtain ⟨⟨fault | text, after⟩, hstep⟩ :=
        exists_unpackString_of_hasMoreData hlimit hmore unicode
      · exact ⟨[], after, some fault, .stopped hmore hstep⟩
      · have hsame := capacity_of_unpackString hstep
        obtain ⟨hforward, hafter⟩ := forward_of_unpackString hstep
        obtain ⟨texts, last, ending, hrest⟩ := ih (after.capacity - after.position) (by omega)
          (by rw [(frame_of_unpackString hstep).2]; exact hlimit) rfl
        exact ⟨text :: texts, last, ending, .step hmore hstep hrest⟩

theorem Walk.unique {texts' : List String} {last' : Packet} {ending' : Option Fault}
    (hwalk : Walk unicode packet texts last ending)
    (hother : Walk unicode packet texts' last' ending') :
    texts = texts' ∧ last = last' ∧ ending = ending' := by
  induction hwalk generalizing texts' last' ending' with
  | done hmore =>
    cases hother with
    | done => exact ⟨rfl, rfl, rfl⟩
    | stopped hmore' | step hmore' =>
      rw [hmore] at hmore'
      cases hmore'
  | stopped hmore hfault =>
    cases hother with
    | done hmore' =>
      rw [hmore] at hmore'
      cases hmore'
    | stopped _ hfault' =>
      rw [hfault] at hfault'
      cases hfault'
      exact ⟨rfl, rfl, rfl⟩
    | step _ htext =>
      rw [hfault] at htext
      cases htext
  | step hmore htext hrest ih =>
    cases hother with
    | done hmore' =>
      rw [hmore] at hmore'
      cases hmore'
    | stopped _ hfault =>
      rw [htext] at hfault
      cases hfault
    | step _ htext' hrest' =>
      rw [htext] at htext'
      cases htext'
      obtain ⟨rfl, rfl, rfl⟩ := ih hrest'
      exact ⟨rfl, rfl, rfl⟩

/-- With strings to spare, what is unpacked are the strings of the walk, and the fault that ends it
if there is one. -/
theorem Walk.unpackStrings_eq (hwalk : Walk unicode packet texts last ending)
    (hunicode : packet.isUnicode = unicode) {count : Nat} (hcount : texts.length < count) :
    ∃ steps, packet.unpackStrings count = some steps ∧
      steps.map Prod.fst = texts.map Except.ok ++ ending.toList.map Except.error := by
  induction hwalk generalizing count with
  | done hmore =>
    obtain ⟨count, rfl⟩ := Nat.exists_eq_succ_of_ne_zero (Nat.ne_of_gt hcount)
    rw [unpackStrings, hmore]
    exact ⟨[], rfl, rfl⟩
  | stopped hmore hfault =>
    obtain ⟨count, rfl⟩ := Nat.exists_eq_succ_of_ne_zero (Nat.ne_of_gt hcount)
    rw [unpackStrings, if_pos hmore, hunicode, hfault]
    exact ⟨_, rfl, rfl⟩
  | @step packet after last text texts ending hmore htext hrest ih =>
    obtain ⟨count, rfl⟩ := Nat.exists_eq_succ_of_ne_zero (Nat.ne_of_gt (Nat.zero_lt_of_lt hcount))
    obtain ⟨steps, hsteps, htexts⟩ :=
      ih ((isUnicode_of_unpackString htext).trans hunicode) (Nat.lt_of_succ_lt_succ hcount)
    rw [unpackStrings, if_pos hmore, hunicode, htext]
    simp only [Option.bind_eq_bind, Option.bind_some, hsteps]
    exact ⟨_, rfl, congrArg (Except.ok text :: ·) htexts⟩

end Walk

/-- A walk over the byte area ends, and reads no more strings than there are bytes behind the start
of this area.  It ends because there is no more data, or at a string that cannot be read. -/
structure Ends (packet : Packet) (unicode : Bool) (texts : List String) (last : Packet)
    (ending : Option Fault) : Prop where
  walk : Walk unicode packet.resetBytePointer texts last ending
  length_le : texts.length ≤ packet.capacity - packet.byteOffset
  position_le : last.position ≤ packet.capacity
  unique : ∀ texts' last' ending', Walk unicode packet.resetBytePointer texts' last' ending' →
    texts = texts' ∧ last = last' ∧ ending = ending'
  unpackStrings_eq : packet.isUnicode = unicode → ∀ count, texts.length < count →
    ∃ steps, packet.resetBytePointer.unpackStrings count = some steps ∧
      steps.map Prod.fst = texts.map Except.ok ++ ending.toList.map Except.error

theorem exists_ends (packet : Packet) (unicode : Bool) :
    ∃ texts last ending, packet.Ends unicode texts last ending := by
  have hinside : packet.resetBytePointer.position ≤ packet.resetBytePointer.capacity :=
    Nat.le_trans packet.byteOffset_le packet.minimum_le_length
  obtain ⟨texts, last, ending, hwalk⟩ := exists_walk packet.limit_resetBytePointer_lt unicode
  obtain ⟨hlow, hhigh⟩ := hwalk.length_le hinside
  have hstart : packet.resetBytePointer.position = packet.byteOffset := rfl
  have hroom : packet.resetBytePointer.capacity = packet.capacity := rfl
  exact ⟨texts, last, ending, hwalk, by omega, hhigh, fun _ _ _ => hwalk.unique,
    fun hunicode _ => hwalk.unpackStrings_eq hunicode⟩

/-- From wherever the cursor stands, unpacking a string moves it forward inside the buffer, and if
it fails it leaves the packet as it was.  So the walk over the byte area ends, whatever the packet
holds. -/
theorem walk_ends (packet : Packet) (unicode : Bool) :
    (∀ text after, packet.unpackString unicode = some (.ok text, after) →
      packet.position < after.position ∧ after.position ≤ packet.capacity) ∧
    (∀ fault after, packet.unpackString unicode = some (.error fault, after) → after = packet) ∧
    ∃ texts last ending, packet.Ends unicode texts last ending :=
  ⟨fun _ _ => forward_of_unpackString,
    fun fault _ hfault => keptOnFailure_unpackString hfault fault rfl, packet.exists_ends unicode⟩

end SmbExchange.Packet

import SmbExchange.Proofs.Packet.Failure
import SmbExchange.Proofs.Packet.FieldLaws
import SmbExchange.Proofs.Packet.Independence

/-!
# Requests built in used packets

Resetting a packet leaves its words and its byte area in the buffer.  A request
that is built from there on writes over all of them that its message shows: the
words one by one, the byte count at the end, and the byte area together with
the zeros that align its texts.  Two packets that start with different contents
therefore agree on more and more bytes, and in the end on the whole message.
-/

namespace SmbExchange

namespace Bytes

/-- The buffers are of one length and have the same bytes at the known places. -/
structure AgreeOn (left right : Bytes) (known : Nat → Prop) : Prop where
  length_eq : left.length = right.length
  getElem?_eq : ∀ index, known index → left[index]? = right[index]?

namespace AgreeOn

variable {left right : Bytes} {known other : Nat → Prop}

theorem mono (hagree : left.AgreeOn right known) (hother : ∀ index, other index → known index) :
    left.AgreeOn right other :=
  ⟨hagree.length_eq, fun index hindex => hagree.getElem?_eq index (hother index hindex)⟩

/-- What is written into both is known in both. -/
theorem patch (hagree : left.AgreeOn right known) (offset : Nat) (source : Bytes) :
    (left.patch offset source).AgreeOn (right.patch offset source) fun index =>
      known index ∨ offset ≤ index ∧ index < offset + source.length := by
  have hlength := hagree.length_eq
  refine ⟨by rw [length_patch, length_patch, hlength], fun index hindex => ?_⟩
  rw [getElem?_patch, getElem?_patch, hlength]
  split
  · rfl
  · rename_i hunwritten
    rcases hindex with hknown | hwritten
    · exact hagree.getElem?_eq index hknown
    · rw [List.getElem?_eq_none (by omega), List.getElem?_eq_none (by omega)]

theorem slice_eq (hagree : left.AgreeOn right known) {start length : Nat}
    (hknown : ∀ index, start ≤ index → index < start + length → known index) :
    left.slice start length = right.slice start length :=
  slice_eq_of_getElem?_eq fun index hindex =>
    hagree.getElem?_eq (start + index) (hknown _ (Nat.le_add_right _ _) (by omega))

end AgreeOn

end Bytes

namespace Packet

open LittleEndian (ofWord length_ofWord length_flatMap_ofWord)

/-! ## Packets that are known alike -/

/-- The cursors stand at one position, and the buffers agree at the known places. -/
structure Alike (left right : Packet) (known : Nat → Prop) : Prop where
  agree : left.buffer.AgreeOn right.buffer known
  position_eq : left.position = right.position

namespace Alike

variable {left right : Packet} {known : Nat → Prop}

theorem capacity_eq (halike : left.Alike right known) : left.capacity = right.capacity :=
  halike.agree.length_eq

theorem mono {other : Nat → Prop} (halike : left.Alike right known)
    (hother : ∀ index, other index → known index) : left.Alike right other :=
  ⟨halike.agree.mono hother, halike.position_eq⟩

theorem patch (halike : left.Alike right known) (offset : Nat) (source : Bytes) :
    (left.patch offset source).Alike (right.patch offset source) fun index =>
      known index ∨ offset ≤ index ∧ index < offset + source.length :=
  ⟨halike.agree.patch offset source, halike.position_eq⟩

theorem patch_known (halike : left.Alike right known) (offset : Nat) (source : Bytes) :
    (left.patch offset source).Alike (right.patch offset source) known :=
  (halike.patch offset source).mono fun _ => Or.inl

theorem byteOffset_eq (halike : left.Alike right known) (hcount : known 36) :
    left.byteOffset = right.byteOffset := by
  have hslice : left.buffer.slice 36 1 = right.buffer.slice 36 1 := by
    apply halike.agree.slice_eq
    intro index hlow hhigh
    obtain rfl : index = 36 := by omega
    exact hcount
  have hwords : left.wordCount = right.wordCount := by
    simp only [wordCount, get, HeaderField.offset, HeaderField.width, hslice]
  rw [byteOffset, byteOffset, hwords]

end Alike

/-- A reset packet is known from its marker up to the slot of the byte count. -/
theorem alike_reset {first second : Packet} (hcapacity : first.capacity = second.capacity) :
    first.reset.Alike second.reset fun index => headerRoom ≤ index ∧ index < 39 := by
  have hnothing : first.buffer.AgreeOn second.buffer fun _ => False :=
    ⟨hcapacity, fun _ hknown => hknown.elim⟩
  refine ⟨((hnothing.patch 8 (Bytes.zeros 31)).patch headerRoom marker).mono ?_, rfl⟩
  rintro index ⟨hlow, hhigh⟩
  rw [headerRoom] at hlow ⊢
  rw [Bytes.length_zeros, marker, List.length_cons, List.length_cons, List.length_cons,
    List.length_singleton]
  omega

/-! ## The header -/

inductive HeaderSetter where
  | assign (field : HeaderField) (value : Nat)
  | signature (bytes : Bytes)
  | expect (command : UInt8)
  | chain (command : UInt8)
  deriving DecidableEq, Repr

def HeaderSetter.apply (packet : Packet) : HeaderSetter → Packet
  | assign field value => packet.assign field value
  | signature bytes => packet.setSignatureBytes bytes
  | expect command => packet.expect command
  | chain command => packet.setAndxCommand command

section Header

variable {left right : Packet} {known : Nat → Prop}

/-- A header setter writes the same whatever it writes over. -/
theorem Alike.apply (halike : left.Alike right known) (setter : HeaderSetter) :
    (setter.apply left).Alike (setter.apply right) known := by
  cases setter with
  | assign field value =>
    rw [HeaderSetter.apply, HeaderSetter.apply, assign_eq, assign_eq]
    have hset := halike.patch_known field.offset (LittleEndian.encode field.width value)
    exact ⟨hset.agree, hset.position_eq⟩
  | signature bytes => exact halike.patch_known _ _
  | expect command => exact ⟨halike.agree, halike.position_eq⟩
  | chain command =>
    simp only [HeaderSetter.apply, setAndxCommand]
    have hchained := halike.patch_known 37 [command, 0]
    split
    · exact hchained.patch_known 39 (Bytes.zeros 2)
    · exact hchained

theorem Alike.applyAll (halike : left.Alike right known) (setters : List HeaderSetter) :
    (setters.foldl HeaderSetter.apply left).Alike (setters.foldl HeaderSetter.apply right)
      known := by
  induction setters generalizing left right with
  | nil => exact halike
  | cons setter setters ih => exact ih (halike.apply setter)

end Header

/-! ## The words -/

/-- Sets words one by one, each at its own index, up to the first that cannot be set. -/
def setEach (packet : Packet) : List (UInt64 × UInt16) → Option (Attempt Unit)
  | [] => some (.ok (), packet)
  | (index, word) :: words => do
    match ← packet.setParameter index word with
    | (.ok (), changed) => changed.setEach words
    | failed => some failed

/-- The packet with words written at their indices. -/
def putEach (packet : Packet) (words : List (UInt64 × UInt16)) : Packet :=
  words.foldl (fun changed entry => changed.putWords entry.1.toNat [entry.2]) packet

section Words

variable {packet left right : Packet} {known : Nat → Prop} {words : List (UInt64 × UInt16)}

theorem wordCount_putWords (packet : Packet) (first : Nat) (written : List UInt16) :
    (packet.putWords first written).wordCount = packet.wordCount :=
  wordCount_of_changed (Bytes.changedWithin_patch (Nat.le_refl _) (Nat.le_refl _))
    (Nat.le_add_right _ _)

theorem setEach_eq (hinside : ∀ entry ∈ words, entry.1.toNat < packet.wordCount.toNat) :
    packet.setEach words = some (.ok (), packet.putEach words) := by
  induction words generalizing packet with
  | nil => rfl
  | cons entry words ih =>
    obtain ⟨index, word⟩ := entry
    have hindex : index.toNat < packet.wordCount.toNat := hinside _ List.mem_cons_self
    have hrest := @ih (packet.putWords index.toNat [word]) fun other hother => by
      rw [wordCount_putWords]
      exact hinside other (List.mem_cons_of_mem _ hother)
    rw [setEach, setParameter_eq word hindex]
    exact hrest

theorem wordCount_putEach (packet : Packet) (words : List (UInt64 × UInt16)) :
    (packet.putEach words).wordCount = packet.wordCount := by
  induction words generalizing packet with
  | nil => rfl
  | cons entry words ih => exact (ih _).trans (wordCount_putWords packet _ _)

theorem capacity_putEach (packet : Packet) (words : List (UInt64 × UInt16)) :
    (packet.putEach words).capacity = packet.capacity := by
  induction words generalizing packet with
  | nil => rfl
  | cons entry words ih => exact (ih _).trans (capacity_patch packet _ _)

/-- The byte belongs to one of the words. -/
def InWords (words : List (UInt64 × UInt16)) (index : Nat) : Prop :=
  ∃ entry ∈ words, wordsStart + 2 * entry.1.toNat ≤ index ∧
    index < wordsStart + 2 * entry.1.toNat + 2

theorem Alike.putEach (halike : left.Alike right known) (words : List (UInt64 × UInt16)) :
    (left.putEach words).Alike (right.putEach words) fun index =>
      known index ∨ InWords words index := by
  induction words generalizing left right known with
  | nil => exact halike.mono fun _ hknown => hknown.resolve_right fun ⟨_, hentry, _⟩ =>
      absurd hentry List.not_mem_nil
  | cons entry words ih =>
    have hfirst := halike.patch (wordsStart + 2 * entry.1.toNat) ([entry.2].flatMap ofWord)
    refine (ih hfirst).mono ?_
    rw [length_flatMap_ofWord, List.length_singleton]
    rintro index (hknown | ⟨other, hother, hrange⟩)
    · exact .inl (.inl hknown)
    · rcases List.mem_cons.mp hother with rfl | hlater
      · exact .inl (.inr hrange)
      · exact .inr ⟨other, hlater, hrange⟩

end Words

/-! ## The byte area -/

section Items

variable {left right : Packet}

variable (hcapacity : left.capacity = right.capacity) (hposition : left.position = right.position)

include hcapacity hposition

/-- Items can be packed in both packets or in none of them, and nothing overflows before the end of
the buffer. -/
theorem exists_packItems_congr (haddress : left.capacity + 1 < positionSpan)
    (hinside : left.position ≤ left.capacity) (items : List Item) :
    ∃ result packed otherPacked, left.packItems items = some (result, packed) ∧
      right.packItems items = some (result, otherPacked) := by
  induction items generalizing left right with
  | nil => exact ⟨_, _, _, rfl, rfl⟩
  | cons item items ih =>
    obtain ⟨⟨result, packed⟩, hleft⟩ : ∃ attempt, left.packItem item = some attempt :=
      exists_run (.pack item) (Nat.lt_of_le_of_lt (Nat.succ_le_succ hinside) haddress) trivial
    have hsame := map_fst_packItem_congr hcapacity hposition item
    rw [hleft] at hsame
    obtain ⟨⟨other, otherPacked⟩, hright, hresult⟩ := Option.map_eq_some_iff.mp hsame.symm
    obtain rfl : other = result := hresult
    rw [packItems, packItems, hleft, hright]
    cases other with
    | error fault => exact ⟨_, _, _, rfl, rfl⟩
    | ok _ =>
      obtain ⟨rfl, hfits⟩ := packItem_eq_ok hleft
      obtain ⟨rfl, -⟩ := packItem_eq_ok hright
      have hleftCapacity : (left.placed (item.bytesAt left.position)).capacity = left.capacity :=
        capacity_patch left _ _
      have hrightCapacity : (right.placed (item.bytesAt right.position)).capacity =
          right.capacity := capacity_patch right _ _
      apply ih
      · rw [hleftCapacity, hrightCapacity, hcapacity]
      · rw [placed, placed, hposition]
      · rw [hleftCapacity]
        exact haddress
      · rw [hleftCapacity]
        exact hfits

end Items

/-! ## The whole request -/

/-- What a request is built from, in the order in which it is built. -/
structure Draft where
  header : List HeaderSetter
  wordCount : UInt8
  words : List (UInt64 × UInt16)
  items : List Item
  words_inside : ∀ entry ∈ words, entry.1.toNat < wordCount.toNat
  words_complete : ∀ index < wordCount.toNat, UInt64.ofNat index ∈ words.map Prod.fst

namespace Draft

variable (draft : Draft)

/-- Resets the packet and builds the request in it. -/
def build (packet : Packet) : Option (Attempt Unit) := do
  match ← ((draft.header.foldl HeaderSetter.apply packet.reset).assign .wordCount
      draft.wordCount.toNat).setEach draft.words with
  | (.ok (), headed) => do
    match ← headed.resetBytePointer.packItems draft.items with
    | (.ok (), packed) => some packed.setByteCountFromPosition
    | failed => some failed
  | failed => some failed

def headed (packet : Packet) : Packet :=
  ((draft.header.foldl HeaderSetter.apply packet.reset).assign .wordCount
    draft.wordCount.toNat).putEach draft.words

theorem wordCount_headed (packet : Packet) :
    (draft.headed packet).wordCount = draft.wordCount := by
  have hset := shown_assign (draft.header.foldl HeaderSetter.apply packet.reset) .wordCount
    draft.wordCount.toNat_lt
  rw [headed, wordCount_putEach]
  exact UInt8.toNat.inj hset

theorem byteOffset_headed (packet : Packet) :
    (draft.headed packet).byteOffset = 39 + 2 * draft.wordCount.toNat := by
  rw [byteOffset, wordCount_headed]

theorem capacity_headed (packet : Packet) :
    (draft.headed packet).capacity = packet.capacity := by
  have happly : ∀ (other : Packet) (setter : HeaderSetter),
      (setter.apply other).capacity = other.capacity := by
    intro other setter
    cases setter with
    | assign field value =>
      rw [HeaderSetter.apply, capacity, buffer_assign]
      exact capacity_set other field value
    | signature bytes => exact capacity_patch other _ _
    | expect command => rfl
    | chain command =>
      rw [HeaderSetter.apply, setAndxCommand]
      split
      · exact (capacity_patch _ _ _).trans (capacity_patch other _ _)
      · exact capacity_patch other _ _
  have hheader : (draft.header.foldl HeaderSetter.apply packet.reset).capacity =
      packet.capacity := by
    rw [← capacity_reset packet]
    generalize packet.reset = other
    induction draft.header generalizing other with
    | nil => rfl
    | cons setter setters ih => exact (ih _).trans (happly other setter)
  rw [headed, capacity_putEach, capacity, buffer_assign]
  exact (capacity_set _ .wordCount _).trans hheader

theorem setEach_headed (packet : Packet) :
    ((draft.header.foldl HeaderSetter.apply packet.reset).assign .wordCount
      draft.wordCount.toNat).setEach draft.words = some (.ok (), draft.headed packet) := by
  have hwords := draft.wordCount_headed packet
  rw [headed, wordCount_putEach] at hwords
  apply setEach_eq
  rw [hwords]
  exact draft.words_inside

/-- Every byte of the header and of the words is known. -/
theorem alike_headed {first second : Packet} (hcapacity : first.capacity = second.capacity) :
    (draft.headed first).Alike (draft.headed second) fun index =>
      headerRoom ≤ index ∧ index < 37 + 2 * draft.wordCount.toNat := by
  have hheader := ((alike_reset hcapacity).applyAll draft.header).apply
    (.assign .wordCount draft.wordCount.toNat)
  refine (hheader.putEach draft.words).mono ?_
  rintro index ⟨hlow, hhigh⟩
  by_cases hfixed : index < 39
  · exact .inl ⟨hlow, hfixed⟩
  · have hsmall := draft.wordCount.toNat_lt
    obtain ⟨entry, hentry, hindex⟩ :=
      List.mem_map.mp (draft.words_complete ((index - 37) / 2) (by omega))
    have hnumber : entry.1.toNat = (index - 37) / 2 := by
      rw [hindex, UInt64.toNat_ofNat_of_lt']
      rw [UInt64.size]
      omega
    refine .inr ⟨entry, hentry, ?_⟩
    rw [hnumber, wordsStart]
    omega

end Draft

/-- A message is the same in two packets that agree on all of it. -/
theorem Alike.message_eq {left right : Packet}
    (halike : left.Alike right fun index =>
      headerRoom ≤ index ∧ index < headerRoom + left.totalLength) :
    left.message = right.message := by
  have htotal : headerRoom + left.totalLength = left.byteOffset + left.byteCount.toNat := by
    have hlow := left.le_byteOffset
    rw [totalLength, headerRoom]
    omega
  have hlow := left.le_byteOffset
  rw [htotal, headerRoom] at halike
  have hoffset := halike.byteOffset_eq (by omega)
  have hcount : left.byteCount = right.byteCount := by
    rw [byteCount, byteCount, wordAt, wordAt, ← hoffset, halike.agree.slice_eq]
    intro index hstart hstop
    omega
  have hlength : left.totalLength = right.totalLength := by
    rw [totalLength, totalLength, hoffset, hcount]
  have hslice : left.buffer.slice headerRoom left.totalLength =
      right.buffer.slice headerRoom left.totalLength := by
    apply halike.agree.slice_eq
    intro index hstart hstop
    rw [headerRoom] at hstart
    omega
  have hfits : left.Fits ↔ right.Fits := by
    rw [Packet.Fits, Packet.Fits, hlength, halike.capacity_eq]
  rw [hlength] at hslice
  simp only [Packet.message_eq, hfits, hslice, hlength, halike.capacity_eq]

namespace Draft

def area (draft : Draft) : Bytes :=
  bytesOfItems (39 + 2 * draft.wordCount.toNat) draft.items

/-- The packet with the whole request in it. -/
def finished (draft : Draft) (packet : Packet) : Packet :=
  ((draft.headed packet).resetBytePointer.placed draft.area).setByteCount
    (UInt16.ofNat draft.area.length)

variable (draft : Draft) {packet first second : Packet}

/-- The items start at a place that the draft alone decides. -/
theorem start_headed (packet : Packet) :
    (draft.headed packet).resetBytePointer.position = 39 + 2 * draft.wordCount.toNat ∧
      (draft.headed packet).resetBytePointer.capacity = packet.capacity ∧
      39 + 2 * draft.wordCount.toNat ≤ packet.capacity := by
  have hminimum : 549 ≤ packet.capacity := packet.minimum_le_length
  have hsmall := draft.wordCount.toNat_lt
  exact ⟨draft.byteOffset_headed packet, draft.capacity_headed packet, by omega⟩

theorem byteOffset_placed (packet : Packet) :
    ((draft.headed packet).resetBytePointer.placed draft.area).byteOffset =
      39 + 2 * draft.wordCount.toNat := by
  rw [← draft.byteOffset_headed packet]
  exact byteOffset_patch_behind (draft.headed packet).resetBytePointer _
    (Nat.le_trans (by decide) (draft.headed packet).le_byteOffset)

/-- Items that cannot be packed are not built. -/
theorem build_of_packItems_error {fault : Fault} {packed : Packet}
    (hitems : (draft.headed packet).resetBytePointer.packItems draft.items =
      some (.error fault, packed)) :
    draft.build packet = some (.error fault, packed) := by
  rw [build, setEach_headed]
  simp only [hitems, Option.bind_eq_bind, Option.bind_some]

/-- Items that could be packed are counted, and where they are too many nothing was built. -/
theorem build_of_packItems_ok {packed : Packet}
    (hitems : (draft.headed packet).resetBytePointer.packItems draft.items =
      some (.ok (), packed)) :
    draft.build packet =
      some (if draft.area.length ≤ 0xFFFF then (.ok (), draft.finished packet)
        else (.error (.oversizedPacket draft.area.length), packed)) := by
  obtain ⟨hposition, hcapacity, hstart⟩ := draft.start_headed packet
  rw [build, setEach_headed]
  simp only [hitems, Option.bind_eq_bind, Option.bind_some]
  obtain ⟨hpacked, -⟩ := packItems_eq_ok (by rw [hposition, hcapacity]; exact hstart) hitems
  rw [hposition] at hpacked
  obtain rfl : packed = (draft.headed packet).resetBytePointer.placed draft.area := hpacked
  have hlength : ((draft.headed packet).resetBytePointer.placed draft.area).position -
      ((draft.headed packet).resetBytePointer.placed draft.area).byteOffset =
        draft.area.length := by
    rw [draft.byteOffset_placed, placed, hposition, Nat.add_sub_cancel_left]
  simp only [setByteCountFromPosition, hlength]
  rfl

/-- The byte count closes the gap between the words and the items. -/
theorem alike_finished (hcapacity : first.capacity = second.capacity) :
    (draft.finished first).Alike (draft.finished second) fun index =>
      headerRoom ≤ index ∧ index < 39 + 2 * draft.wordCount.toNat + draft.area.length := by
  have hslot : 39 + 2 * draft.wordCount.toNat - 2 = 37 + 2 * draft.wordCount.toNat := by omega
  have hknown := ((draft.alike_headed hcapacity).agree.patch (39 + 2 * draft.wordCount.toNat)
    draft.area).patch (37 + 2 * draft.wordCount.toNat) (ofWord (UInt16.ofNat draft.area.length))
  rw [finished, finished, setByteCount, setByteCount, draft.byteOffset_placed,
    draft.byteOffset_placed, hslot]
  simp only [placed, resetBytePointer, draft.byteOffset_headed]
  refine ⟨hknown.mono ?_, rfl⟩
  rintro index ⟨hlow, hhigh⟩
  rw [length_ofWord]
  omega

theorem headerRoom_add_totalLength_finished (hlength : draft.area.length ≤ 0xFFFF) :
    headerRoom + (draft.finished packet).totalLength =
      39 + 2 * draft.wordCount.toNat + draft.area.length := by
  have hoffset := draft.byteOffset_placed packet
  rw [totalLength, finished, byteCount_setByteCount, byteOffset_setByteCount, hoffset,
    UInt16.toNat_ofNat_of_lt' (Nat.lt_succ_of_le hlength), headerRoom]
  omega

/-- Where the items were packed, the byte area starts inside the buffer and ends there. -/
theorem exists_message_finished {packed : Packet}
    (hitems : (draft.headed packet).resetBytePointer.packItems draft.items =
      some (.ok (), packed))
    (hlength : draft.area.length ≤ 0xFFFF) :
    ∃ message, (draft.finished packet).message = .ok message := by
  obtain ⟨hposition, hcapacity, hstart⟩ := draft.start_headed packet
  obtain ⟨-, hend⟩ := packItems_eq_ok (by rw [hposition, hcapacity]; exact hstart) hitems
  rw [hposition, hcapacity] at hend
  have hfinished : (draft.finished packet).capacity = packet.capacity :=
    (capacity_patch _ _ _).trans ((capacity_patch _ _ _).trans hcapacity)
  refine ⟨_, (draft.finished packet).message_eq.trans (if_pos ?_)⟩
  rw [Packet.Fits, headerRoom_add_totalLength_finished draft hlength, hfinished]
  exact hend

end Draft

/-- A request that is built in a used packet shows nothing of what was in it before: it is built
in either of two packets of one capacity or in none, and the messages are the same.  No buffer
reaches the end of the address space. -/
theorem build_of_any_contents (draft : Draft) (first second : Packet)
    (hcapacity : first.capacity = second.capacity)
    (haddress : first.capacity + 1 < positionSpan) :
    ∃ result built otherBuilt, draft.build first = some (result, built) ∧
      draft.build second = some (result, otherBuilt) ∧
      (result = .ok () → ∃ message,
        built.message = .ok message ∧ otherBuilt.message = .ok message) := by
  obtain ⟨hfirstStart, hfirstRoom, hinside⟩ := draft.start_headed first
  obtain ⟨hsecondStart, hsecondRoom, -⟩ := draft.start_headed second
  obtain ⟨result, packed, otherPacked, hfirst, hsecond⟩ :=
    exists_packItems_congr (hfirstRoom.trans (hcapacity.trans hsecondRoom.symm))
      (hfirstStart.trans hsecondStart.symm) (hfirstRoom ▸ haddress)
      (by rw [hfirstStart, hfirstRoom]; exact hinside) draft.items
  cases result with
  | error fault =>
    exact ⟨_, _, _, draft.build_of_packItems_error hfirst, draft.build_of_packItems_error hsecond,
      nofun⟩
  | ok _ =>
    rw [draft.build_of_packItems_ok hfirst, draft.build_of_packItems_ok hsecond]
    by_cases hlength : draft.area.length ≤ 0xFFFF
    · rw [if_pos hlength, if_pos hlength]
      have halike := draft.alike_finished hcapacity
      have htotal : headerRoom + (draft.finished first).totalLength =
          39 + 2 * draft.wordCount.toNat + draft.area.length :=
        draft.headerRoom_add_totalLength_finished hlength
      rw [← htotal] at halike
      obtain ⟨message, hmessage⟩ := draft.exists_message_finished hfirst hlength
      exact ⟨_, _, _, rfl, rfl, fun _ => ⟨message, hmessage, halike.message_eq ▸ hmessage⟩⟩
    · rw [if_neg hlength, if_neg hlength]
      exact ⟨_, _, _, rfl, rfl, nofun⟩

/-- A packet full of other bytes against a new one.  The second word is set before the first, and
the byte area starts with a text that has to be aligned. -/
theorem build_of_any_contents_soiled :
    let fresh := blank 549 (by decide)
    let soiled := (fresh.patch 0 (List.replicate 549 0xAA)).setPosition 11
    let draft : Draft :=
      { header := [.assign .command 0x2B, .signature [1, 2, 3, 4, 5, 6, 7, 8], .chain 0xFF]
        wordCount := 2
        words := [(1, 0x1122), (0, 0x3344)]
        items := [.text "é" true, .byte 9, .text "é" false]
        words_inside := List.forall_mem_cons.mpr
          ⟨by decide, List.forall_mem_cons.mpr ⟨by decide, List.forall_mem_nil _⟩⟩
        words_complete := by decide }
    soiled.capacity = fresh.capacity ∧ soiled.capacity + 1 < positionSpan ∧
      ∃ built otherBuilt message, draft.build soiled = some (.ok (), built) ∧
        draft.build fresh = some (.ok (), otherBuilt) ∧ built.message = .ok message ∧
        otherBuilt.message = .ok message := by
  intro fresh soiled draft
  have hcapacity : soiled.capacity = fresh.capacity := by decide +kernel
  have haddress : soiled.capacity + 1 < positionSpan := by decide +kernel
  obtain ⟨_, hbuild, -⟩ : ∃ built, draft.build soiled = some (.ok (), built) ∧ true = true :=
    exists_ok_of_any (fun _ => true) (by decide +kernel)
  obtain ⟨result, built, otherBuilt, hfirst, hsecond, hmessage⟩ :=
    build_of_any_contents draft soiled fresh hcapacity haddress
  obtain rfl : result = .ok () := congrArg Prod.fst (Option.some.inj (hfirst.symm.trans hbuild))
  obtain ⟨message, hbuilt, hotherBuilt⟩ := hmessage rfl
  exact ⟨hcapacity, haddress, built, otherBuilt, message, hfirst, hsecond, hbuilt, hotherBuilt⟩

end Packet

end SmbExchange

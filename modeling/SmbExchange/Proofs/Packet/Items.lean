import SmbExchange.Packet.Cursor
import SmbExchange.Proofs.Packet.Assembly
import SmbExchange.Proofs.Text.Strings

/-!
# Items that are packed and unpacked

A byte area holds items of mixed types one behind the other.  What an item
looks like depends on where it starts only for UTF-16 text, which is aligned,
and so `Item.bytesAt` takes the start.  Packing writes these bytes; whoever
finds them at the same place unpacks the items, whether in the same packet or
in one made from the message.
-/

namespace SmbExchange.Packet

open LittleEndian (ofWord ofLong ofQuad)

inductive Item where
  | byte (value : UInt8)
  | word (value : UInt16)
  | long (value : UInt32)
  | quad (value : UInt64)
  | raw (source : Bytes)
  | text (value : String) (unicode : Bool)
  deriving DecidableEq, Repr

/-- What has to be known to unpack an item. -/
inductive ItemType where
  | byte
  | word
  | long
  | quad
  | raw (length : Nat)
  | text (unicode : Bool)
  deriving DecidableEq, Repr

namespace Item

def type : Item → ItemType
  | byte _ => .byte
  | word _ => .word
  | long _ => .long
  | quad _ => .quad
  | raw source => .raw source.length
  | text _ unicode => .text unicode

/-- A text can be told from its terminator and is not cut when it is unpacked. -/
def Bounded : Item → Prop
  | text value true => NulFree value ∧ (Utf16.encode value.toList).length ≤ 254
  | text value false =>
    NulFree value ∧ value.length ≤ 254 ∧ ∀ char ∈ value.toList, char.toNat ≤ 0xFF
  | _ => True

instance (item : Item) : Decidable item.Bounded :=
  match item with
  | text _ true => inferInstanceAs (Decidable (_ ∧ _))
  | text value false =>
    -- The characters of the text are gone through, not all that there are.
    letI : Decidable (∀ char ∈ value.toList, char.toNat ≤ 0xFF) :=
      List.decidableBAll (fun char : Char => char.toNat ≤ 0xFF) value.toList
    inferInstanceAs (Decidable (_ ∧ _ ∧ _))
  | byte _ | word _ | long _ | quad _ | raw _ => inferInstanceAs (Decidable True)

/-- The bytes of an item without what aligns it. -/
def source : Item → Bytes
  | byte value => [value]
  | word value => ofWord value
  | long value => ofLong value
  | quad value => ofQuad value
  | raw source => source
  | text value true => Utf16.toBytes (Utf16.encode value.toList) ++ [0, 0]
  | text value false => (value.toList.map fun char => UInt8.ofNat char.toNat) ++ [0]

/-- The zeros in front of an item that starts at a position. -/
def padding (start : Nat) : Item → Nat
  | text _ true => start % 2
  | _ => 0

def bytesAt (start : Nat) (item : Item) : Bytes :=
  Bytes.zeros (item.padding start) ++ item.source

end Item

/-- The length of a text as readers count it, in units or in characters. -/
def textUnits (text : String) : (unicode : Bool) → Nat
  | true => (Utf16.encode text.toList).length
  | false => text.length

/-- The number of bytes for each of them, and for the terminator. -/
def unitWidth : (unicode : Bool) → Nat
  | true => 2
  | false => 1

def bytesOfItems (start : Nat) : List Item → Bytes
  | [] => []
  | item :: items =>
    item.bytesAt start ++ bytesOfItems (start + (item.bytesAt start).length) items

def packItem (packet : Packet) : Item → Option (Attempt Unit)
  | .byte value => some (packet.packByte value)
  | .word value => some (packet.packWord value)
  | .long value => some (packet.packLong value)
  | .quad value => some (packet.packQuad value)
  | .raw source => some (packet.pack source)
  | .text value unicode => packet.packString value unicode

/-- Packs items up to the first that cannot be packed. -/
def packItems (packet : Packet) : List Item → Option (Attempt Unit)
  | [] => some (.ok (), packet)
  | item :: items => do
    match ← packet.packItem item with
    | (.ok (), packed) => packed.packItems items
    | failed => some failed

def unpackItem (packet : Packet) : ItemType → Option (Attempt Item)
  | .byte => some (packet.unpackByte.map (Except.map .byte) id)
  | .word => some (packet.unpackWord.map (Except.map .word) id)
  | .long => some (packet.unpackLong.map (Except.map .long) id)
  | .quad => some (packet.unpackQuad.map (Except.map .quad) id)
  | .raw length => some ((packet.unpack length).map (Except.map .raw) id)
  | .text unicode =>
    (packet.unpackString unicode).map fun attempt => attempt.map (Except.map (.text · unicode)) id

/-- Unpacks items up to the first that cannot be unpacked. -/
def unpackItems (packet : Packet) : List ItemType → Option (Attempt (List Item))
  | [] => some (.ok [], packet)
  | type :: types => do
    match ← packet.unpackItem type with
    | (.ok item, after) => do
      let rest ← after.unpackItems types
      some (rest.map (Except.map (item :: ·)) id)
    | (.error fault, after) => some (.error fault, after)

/-- What aligns a text is what is skipped to find where it starts. -/
theorem padding_text (start : Nat) (text : String) (unicode : Bool) :
    (Item.text text unicode).padding start = if unicode then start % 2 else 0 := by
  cases unicode <;> rfl

theorem length_source_text (text : String) (unicode : Bool) :
    (Item.text text unicode).source.length =
      unitWidth unicode * textUnits text unicode + unitWidth unicode := by
  cases unicode with
  | true =>
    rw [Item.source, List.length_append, Utf16.length_toBytes]
    rfl
  | false =>
    rw [Item.source, List.length_append, List.length_map, String.length_toList, unitWidth,
      Nat.one_mul]
    rfl

/-! ## Packing -/

/-- The packet after something was written at its cursor. -/
def placed (packet : Packet) (source : Bytes) : Packet :=
  { packet.patch packet.position source with position := packet.position + source.length }

theorem placed_nil (packet : Packet) : packet.placed [] = packet := by
  rw [placed, patch_nil]
  rfl

theorem placed_placed (packet : Packet) (first second : Bytes) :
    (packet.placed first).placed second = packet.placed (first ++ second) := by
  simp only [placed, patch, Bytes.patch_patch, List.length_append, Nat.add_assoc]

section Pack

variable {packet packed : Packet}

theorem attempt_eq_ok {attempt : Attempt Unit} (hok : attempt.1.isOk = true) :
    attempt = (.ok (), attempt.2) :=
  Prod.ext (eq_ok_of_isOk hok) rfl

/-- An attempt that has a result, succeeded, and left the packet as it should be. -/
theorem exists_ok_of_any {attempt : Option (Attempt Unit)} (holds : Packet → Bool)
    (hany : (attempt.any fun done => done.1.isOk && holds done.2) = true) :
    ∃ packed, attempt = some (.ok (), packed) ∧ holds packed = true := by
  obtain _ | done := attempt
  · cases hany
  · obtain ⟨hok, hholds⟩ := Bool.and_eq_true_iff.mp hany
    exact ⟨done.2, congrArg some (attempt_eq_ok hok), hholds⟩

theorem store_eq_ok {offset : Nat} {source : Bytes}
    (hstore : packet.store offset source = (.ok (), packed)) :
    packed = packet.patch offset source ∧ offset + source.length ≤ packet.capacity := by
  rw [store] at hstore
  split at hstore
  · rename_i hfits
    exact ⟨(Prod.mk.inj hstore).2.symm, hfits⟩
  · cases hstore

/-- What is packed fits, and stands where the cursor was. -/
theorem pack_eq_ok {source : Bytes} (hpack : packet.pack source = (.ok (), packed)) :
    packed = packet.placed source ∧ packet.position + source.length ≤ packet.capacity := by
  rw [pack] at hpack
  rcases hstore : packet.store packet.position source with ⟨fault | ⟨⟩, stored⟩
  · rw [hstore] at hpack
    cases hpack
  · rw [hstore] at hpack
    obtain ⟨rfl, hfits⟩ := store_eq_ok hstore
    exact ⟨(Prod.mk.inj hpack).2.symm, hfits⟩

theorem padTo_eq_ok {padded : Packet} {aligned : Nat} (hbehind : packet.position ≤ aligned)
    (hpad : packet.padTo aligned = (.ok (), padded)) :
    { padded with position := aligned } =
      packet.placed (Bytes.zeros (aligned - packet.position)) := by
  rw [padTo] at hpad
  split at hpad
  · obtain ⟨rfl, -⟩ := store_eq_ok hpad
    rw [placed, Bytes.length_zeros, Nat.add_sub_cancel' hbehind]
  · obtain rfl : aligned = packet.position := by omega
    cases hpad
    rw [Nat.sub_self]
    exact packet.placed_nil.symm

/-- A text is stored at the aligned position, in what the padding has left. -/
theorem exists_padded_of_packUtf16 {value : String} {aligned : Nat}
    (hpack : packet.packUtf16 aligned value = (.ok (), packed)) :
    ∃ padded : Packet, packet.padTo aligned = (.ok (), padded) ∧
      aligned + (Item.text value true).source.length ≤ padded.capacity ∧
      packed =
        { padded.patch aligned (Item.text value true).source with
          position := aligned + (Item.text value true).source.length } := by
  rw [packUtf16] at hpack
  rcases hpad : packet.padTo aligned with ⟨fault | ⟨⟩, padded⟩
  · rw [hpad] at hpack
    cases hpack
  rw [hpad] at hpack
  rcases hstore : padded.store aligned (Item.text value true).source with ⟨fault | ⟨⟩, stored⟩
  · simp only [Item.source] at hstore
    simp only [hstore] at hpack
    cases hpack
  · obtain ⟨rfl, hfits⟩ := store_eq_ok hstore
    simp only [Item.source] at hstore
    simp only [hstore] at hpack
    exact ⟨padded, rfl, hfits, (Prod.mk.inj hpack).2.symm⟩

/-- At an odd position a zero is packed first. -/
theorem packUtf16_eq_ok {value : String} {aligned : Nat}
    (haligned : aligned = packet.position + packet.position % 2)
    (hpack : packet.packUtf16 aligned value = (.ok (), packed)) :
    packed = packet.placed ((Item.text value true).bytesAt packet.position) ∧
      packet.position + ((Item.text value true).bytesAt packet.position).length ≤
        packet.capacity := by
  obtain ⟨padded, hpad, hfits, rfl⟩ := exists_padded_of_packUtf16 hpack
  have hplaced := padTo_eq_ok (by omega) hpad
  have hzeros : aligned - packet.position = packet.position % 2 := by omega
  rw [hzeros] at hplaced
  have hcapacity : padded.capacity = packet.capacity :=
    (congrArg capacity hplaced).trans (capacity_patch packet _ _)
  constructor
  · rw [Item.bytesAt, Item.padding, ← placed_placed, ← hplaced]
    rfl
  · rw [Item.bytesAt, Item.padding, List.length_append, Bytes.length_zeros, ← Nat.add_assoc,
      ← haligned, ← hcapacity]
    exact hfits

/-- A single-byte text that was packed could be encoded. -/
theorem encode_of_packLatin {value : String}
    (hpack : packet.packLatin value = (.ok (), packed)) :
    Latin.encode value = .ok (value.toList.map fun char => UInt8.ofNat char.toNat) ∧
      packet.pack (Item.text value false).source = (.ok (), packed) := by
  rw [packLatin] at hpack
  cases hencoded : Latin.encode value with
  | error fault =>
    rw [hencoded] at hpack
    cases hpack
  | ok encoded =>
    obtain rfl := Latin.eq_of_encode hencoded
    rw [hencoded] at hpack
    exact ⟨rfl, hpack⟩

/-- A string that was packed had a start, and was packed there. -/
theorem exists_start_of_packString {value : String} {unicode : Bool}
    (hpack : packet.packString value unicode = some (.ok (), packed)) :
    ∃ start, packet.textStart? unicode = some start ∧
      (if unicode then packet.packUtf16 start value else packet.packLatin value) =
        (.ok (), packed) :=
  Option.map_eq_some_iff.mp hpack

/-- A packed item stands where the cursor was. -/
theorem packItem_eq_ok {item : Item} (hpack : packet.packItem item = some (.ok (), packed)) :
    packed = packet.placed (item.bytesAt packet.position) ∧
      packet.position + (item.bytesAt packet.position).length ≤ packet.capacity := by
  cases item with
  | text value unicode =>
    obtain ⟨start, hstart, hpacked⟩ := exists_start_of_packString hpack
    cases unicode with
    | true => exact packUtf16_eq_ok (textStart?_eq_some_iff.mp hstart).2 hpacked
    | false => exact pack_eq_ok (encode_of_packLatin hpacked).2
  | byte | word | long | quad | raw => exact pack_eq_ok (Option.some.inj hpack)

/-- What was packed was packed item by item. -/
theorem packItems_cons_eq_ok {item : Item} {items : List Item}
    (hpack : packet.packItems (item :: items) = some (.ok (), packed)) :
    ∃ after, packet.packItem item = some (.ok (), after) ∧
      after.packItems items = some (.ok (), packed) := by
  rw [packItems] at hpack
  obtain ⟨⟨fault | ⟨⟩, after⟩, hitem, hrest⟩ := Option.bind_eq_some_iff.mp hpack
  · cases hrest
  · exact ⟨after, hitem, hrest⟩

/-- Items packed one by one stand one behind the other from where the cursor was. -/
theorem packItems_eq_ok {items : List Item} (hinside : packet.position ≤ packet.capacity)
    (hpack : packet.packItems items = some (.ok (), packed)) :
    packed = packet.placed (bytesOfItems packet.position items) ∧
      packet.position + (bytesOfItems packet.position items).length ≤ packet.capacity := by
  induction items generalizing packet with
  | nil =>
    rw [bytesOfItems, placed_nil]
    exact ⟨(Prod.mk.inj (Option.some.inj hpack)).2.symm, hinside⟩
  | cons item items ih =>
    obtain ⟨after, hitem, hrest⟩ := packItems_cons_eq_ok hpack
    obtain ⟨rfl, hfits⟩ := packItem_eq_ok hitem
    have hcapacity : (packet.placed (item.bytesAt packet.position)).capacity =
        packet.capacity := capacity_patch packet _ _
    obtain ⟨rfl, hend⟩ := ih (by rw [hcapacity]; exact hfits) hrest
    rw [hcapacity] at hend
    rw [bytesOfItems, ← placed_placed, List.length_append, ← Nat.add_assoc]
    exact ⟨rfl, hend⟩

end Pack

/-! ## Unpacking -/

def Ahead (packet : Packet) (source : Bytes) : Prop :=
  packet.position + source.length ≤ packet.capacity ∧
    packet.buffer.slice packet.position source.length = source

def moved (packet : Packet) (count : Nat) : Packet :=
  { packet with position := packet.position + count }

@[simp]
theorem position_moved (packet : Packet) (count : Nat) :
    (packet.moved count).position = packet.position + count := rfl

section Unpack

variable {packet : Packet}

theorem map_map_attempt {α β : Type} (attempt : Attempt Bytes) (value : Bytes → α) (item : α → β) :
    (attempt.map (Except.map value) id).map (Except.map item) id =
      attempt.map (Except.map (item ∘ value)) id := by
  obtain ⟨fault | source, after⟩ := attempt
  · rfl
  · rfl

/-- An item is unpacked from a number of bytes, or it is a string. -/
theorem unpackItem_cases {type : ItemType} {attempt : Attempt Item}
    (hunpack : packet.unpackItem type = some attempt) :
    (∃ (length : Nat) (result : Bytes → Item),
        attempt = (packet.unpack length).map (Except.map result) id) ∨
      ∃ (unicode : Bool) (found : Attempt String), packet.unpackString unicode = some found ∧
        attempt = found.map (Except.map (.text · unicode)) id := by
  cases type with
  | text unicode =>
    obtain ⟨found, hfound, rfl⟩ := Option.map_eq_some_iff.mp hunpack
    exact .inr ⟨unicode, found, hfound, rfl⟩
  | raw length => exact .inl ⟨length, .raw, (Option.some.inj hunpack).symm⟩
  | byte | word | long | quad =>
    exact .inl ⟨_, _, (Option.some.inj hunpack).symm.trans (map_map_attempt _ _ _)⟩

theorem ahead_append {first second : Bytes} (hahead : packet.Ahead (first ++ second)) :
    packet.Ahead first ∧ (packet.moved first.length).Ahead second := by
  obtain ⟨hfits, hslice⟩ := hahead
  rw [List.length_append] at hfits hslice
  rw [Bytes.slice_add] at hslice
  have hlength : (packet.buffer.slice packet.position first.length).length = first.length := by
    rw [Bytes.length_slice]
    rw [capacity] at hfits
    omega
  obtain ⟨hfirst, hsecond⟩ := List.append_inj hslice hlength
  refine ⟨⟨by omega, hfirst⟩, ?_, hsecond⟩
  rw [moved, Nat.add_assoc]
  exact hfits

theorem unpack_eq {source : Bytes} (hahead : packet.Ahead source) :
    packet.unpack source.length = (.ok source, packet.moved source.length) := by
  obtain ⟨hfits, hslice⟩ := hahead
  have hinside : packet.buffer.Fits packet.position source.length := hfits
  rw [unpack, Bytes.read, if_pos hinside, hslice]
  rfl

/-- A terminated text is read where it stands, and its terminator too unless the limit comes
first. -/
theorem textAt_of_slice_eq {text : String} {unicode : Bool} {start limit : Nat}
    (hslice : packet.buffer.slice start (Item.text text unicode).source.length =
      (Item.text text unicode).source)
    (hencodable : unicode = false →
      Latin.encode text = .ok (text.toList.map fun char => UInt8.ofNat char.toNat))
    (hnulFree : NulFree text) (hlimit : textUnits text unicode ≤ limit) :
    packet.textAt start limit unicode =
      .ok (text, unitWidth unicode * textUnits text unicode +
        if textUnits text unicode < limit then unitWidth unicode else 0) := by
  have hdrop := Bytes.drop_of_slice_eq hslice
  cases unicode with
  | true =>
    rw [Item.source, List.append_assoc] at hdrop
    exact Bytes.readUtf16_of_drop_eq hnulFree hlimit _ hdrop
  | false =>
    rw [Item.source, List.append_assoc] at hdrop
    rw [unitWidth, Nat.one_mul]
    exact Bytes.readLatin_of_drop_eq hnulFree (hencodable rfl) hlimit _ hdrop

/-- The padding that packing put in is skipped by unpacking. -/
theorem unpackString_eq {text : String} {unicode : Bool}
    (hbounded : (Item.text text unicode).Bounded)
    (haddress : packet.position + 1 < positionSpan)
    (hahead : packet.Ahead ((Item.text text unicode).bytesAt packet.position)) :
    packet.unpackString unicode =
      some (.ok text, packet.moved ((Item.text text unicode).bytesAt packet.position).length) := by
  obtain ⟨hnulFree, hshort, hencodable⟩ : NulFree text ∧ textUnits text unicode < maximumString ∧
      (unicode = false →
        Latin.encode text = .ok (text.toList.map fun char => UInt8.ofNat char.toNat)) := by
    cases unicode with
    | true => exact ⟨hbounded.1, Nat.lt_succ_of_le hbounded.2, nofun⟩
    | false =>
      exact ⟨hbounded.1, Nat.lt_succ_of_le hbounded.2.1,
        fun _ => Latin.encode_of_small hbounded.2.2⟩
  have hbehind := (ahead_append hahead).2.2
  rw [Bytes.length_zeros] at hbehind
  change packet.buffer.slice (packet.position + _) _ = _ at hbehind
  have hstart : packet.textStart? unicode =
      some (packet.position + (Item.text text unicode).padding packet.position) := by
    rw [padding_text]
    exact textStart?_eq_some_iff.mpr ⟨fun _ => haddress, rfl⟩
  have hread := textAt_of_slice_eq hbehind hencodable hnulFree (Nat.le_of_lt hshort)
  rw [if_pos hshort, ← length_source_text] at hread
  rw [unpackString, hstart, Option.map_some]
  simp only [hread, moved, Item.bytesAt, List.length_append, Bytes.length_zeros, Nat.add_assoc]

/-- An item is unpacked where its bytes stand. -/
theorem unpackItem_eq {item : Item} (hbounded : item.Bounded)
    (haddress : packet.position + 1 < positionSpan)
    (hahead : packet.Ahead (item.bytesAt packet.position)) :
    packet.unpackItem item.type =
      some (.ok item, packet.moved (item.bytesAt packet.position).length) := by
  cases item with
  | byte value =>
    have hunpack : packet.unpack 1 = (.ok [value], packet.moved 1) := unpack_eq hahead
    rw [Item.type, unpackItem, unpackByte, hunpack]
    change some (Except.ok (Item.byte (LittleEndian.toByte [value])), _) = _
    rw [LittleEndian.toByte_singleton]
    rfl
  | word value =>
    have hunpack : packet.unpack 2 = (.ok (ofWord value), packet.moved 2) := unpack_eq hahead
    rw [Item.type, unpackItem, unpackWord, hunpack]
    change some (Except.ok (Item.word (LittleEndian.toWord (ofWord value))), _) = _
    rw [LittleEndian.toWord_ofWord]
    rfl
  | long value =>
    have hunpack : packet.unpack 4 = (.ok (ofLong value), packet.moved 4) := unpack_eq hahead
    rw [Item.type, unpackItem, unpackLong, hunpack]
    change some (Except.ok (Item.long (LittleEndian.toLong (ofLong value))), _) = _
    rw [LittleEndian.toLong_ofLong]
    rfl
  | quad value =>
    have hunpack : packet.unpack 8 = (.ok (ofQuad value), packet.moved 8) := unpack_eq hahead
    rw [Item.type, unpackItem, unpackQuad, hunpack]
    change some (Except.ok (Item.quad (LittleEndian.toQuad (ofQuad value))), _) = _
    rw [LittleEndian.toQuad_ofQuad]
    rfl
  | raw source =>
    have hunpack : packet.unpack source.length = (.ok source, packet.moved source.length) :=
      unpack_eq hahead
    rw [Item.type, unpackItem, hunpack]
    rfl
  | text value unicode =>
    rw [Item.type, unpackItem, unpackString_eq hbounded haddress hahead]
    rfl

/-- Items are unpacked one behind the other where their bytes stand. -/
theorem unpackItems_eq {items : List Item} (hbounded : ∀ item ∈ items, item.Bounded)
    (haddress : packet.position + (bytesOfItems packet.position items).length + 1 < positionSpan)
    (hahead : packet.Ahead (bytesOfItems packet.position items)) :
    packet.unpackItems (items.map Item.type) =
      some (.ok items, packet.moved (bytesOfItems packet.position items).length) := by
  induction items generalizing packet with
  | nil => rfl
  | cons item items ih =>
    rw [bytesOfItems] at hahead
    rw [bytesOfItems, List.length_append] at haddress
    obtain ⟨hitem, hrest⟩ := ahead_append hahead
    have hfirst := unpackItem_eq (hbounded item List.mem_cons_self) (by omega) hitem
    have hothers := ih (fun other hother => hbounded other (List.mem_cons_of_mem item hother))
      (by rw [position_moved]; omega) hrest
    rw [List.map_cons, unpackItems, hfirst]
    change ((packet.moved _).unpackItems _).bind _ = _
    rw [hothers]
    simp only [bytesOfItems, List.length_append, moved, Nat.add_assoc]
    rfl

end Unpack

/-! ## Over the wire -/

/-- The byte area is made of the items. -/
structure HoldsItems (packet : Packet) (items : List Item) : Prop where
  count_eq : packet.byteCount.toNat = (bytesOfItems packet.byteOffset items).length
  fits : packet.byteOffset + packet.byteCount.toNat ≤ packet.capacity
  slice_eq : packet.buffer.slice packet.byteOffset packet.byteCount.toNat =
    bytesOfItems packet.byteOffset items

/-- Unpacking the byte area gives the items, stops at the given position and finds nothing more. -/
def UnpacksTo (packet : Packet) (items : List Item) (stop : Nat) : Prop :=
  ∃ after, packet.resetBytePointer.unpackItems (items.map Item.type) = some (.ok items, after) ∧
    after.position = stop ∧ after.hasMoreData = false

theorem byteOffset_patch_behind (packet : Packet) {offset : Nat} (source : Bytes)
    (hbehind : 37 ≤ offset) : (packet.patch offset source).byteOffset = packet.byteOffset := by
  have hword : (packet.patch offset source).wordCount = packet.wordCount := by
    rw [wordCount, wordCount, get, get, patch, Bytes.slice_patch_outside (.inl hbehind)]
  rw [byteOffset, byteOffset, hword]

theorem byteOffset_setByteCount (packet : Packet) (count : UInt16) :
    (packet.setByteCount count).byteOffset = packet.byteOffset := by
  have hoffset := packet.le_byteOffset
  exact packet.byteOffset_patch_behind _ (by omega)

theorem byteCount_setByteCount (packet : Packet) (count : UInt16) :
    (packet.setByteCount count).byteCount = count := by
  have hminimum := packet.minimum_le_length
  have hoffset := packet.byteOffset_le
  have hlow := packet.le_byteOffset
  have hslot : (packet.setByteCount count).buffer.slice (packet.byteOffset - 2) 2 =
      ofWord count := by
    rw [← LittleEndian.length_ofWord count]
    apply Bytes.slice_patch_self
    rw [LittleEndian.length_ofWord]
    omega
  rw [byteCount, byteOffset_setByteCount, wordAt, hslot, LittleEndian.toWord_ofWord]

section Wire

variable {packet : Packet} {items : List Item}

/-- Whoever holds the items unpacks them. -/
theorem unpacksTo_of_holdsItems (hbounded : ∀ item ∈ items, item.Bounded)
    (hholds : packet.HoldsItems items) :
    packet.UnpacksTo items (packet.byteOffset + packet.byteCount.toNat) := by
  obtain ⟨hcount, hfits, hslice⟩ := hholds
  have hahead : packet.resetBytePointer.Ahead
      (bytesOfItems packet.resetBytePointer.position items) := by
    rw [hcount] at hfits hslice
    exact ⟨hfits, hslice⟩
  have haddress : packet.byteOffset + (bytesOfItems packet.byteOffset items).length + 1 <
      positionSpan := by
    have hoffset := packet.byteOffset_le
    have hbytes := packet.byteCount.toNat_lt
    rw [← hcount, positionSpan, UInt64.size]
    omega
  have hunpack := unpackItems_eq hbounded haddress hahead
  refine ⟨_, hunpack, ?_, ?_⟩
  · rw [hcount]
    rfl
  · change decide (packet.byteOffset + (bytesOfItems packet.byteOffset items).length <
      packet.byteOffset + packet.byteCount.toNat) = false
    rw [hcount]
    exact decide_eq_false (Nat.lt_irrefl _)

/-- Where the cursor stands behind the items, counting makes them the byte area. -/
theorem holdsItems_of_counted {counted : Packet}
    (hposition : packet.position =
      packet.byteOffset + (bytesOfItems packet.byteOffset items).length)
    (hfits : packet.position ≤ packet.capacity)
    (hslice : packet.buffer.slice packet.byteOffset
      (bytesOfItems packet.byteOffset items).length = bytesOfItems packet.byteOffset items)
    (hcount : packet.setByteCountFromPosition = (.ok (), counted)) :
    counted.HoldsItems items ∧
      packet.position = counted.byteOffset + counted.byteCount.toNat ∧
      counted.buffer.slice headerRoom 4 = packet.buffer.slice headerRoom 4 := by
  have hlow := packet.le_byteOffset
  rw [setByteCountFromPosition, hposition, Nat.add_sub_cancel_left] at hcount
  split at hcount
  · rename_i hsmall
    obtain ⟨-, rfl⟩ := Prod.mk.inj hcount
    -- The byte count stands in front of the byte area and behind the header.
    have hbuffer : ∀ start length, start + length ≤ packet.byteOffset - 2 ∨
        packet.byteOffset ≤ start →
        (packet.setByteCount (UInt16.ofNat (bytesOfItems packet.byteOffset
          items).length)).buffer.slice start length = packet.buffer.slice start length := by
      intro start length haway
      apply Bytes.slice_patch_outside
      rw [LittleEndian.length_ofWord]
      omega
    have hnumber := UInt16.toNat_ofNat_of_lt' (Nat.lt_succ_of_le hsmall)
    refine ⟨⟨?_, ?_, ?_⟩, ?_, ?_⟩
    · rw [byteCount_setByteCount, byteOffset_setByteCount, hnumber]
    · rw [byteCount_setByteCount, byteOffset_setByteCount, hnumber, setByteCount, capacity_patch,
        ← hposition]
      exact hfits
    · rw [byteCount_setByteCount, byteOffset_setByteCount, hnumber,
        hbuffer _ _ (.inr (Nat.le_refl _)), hslice]
    · rw [byteCount_setByteCount, byteOffset_setByteCount, hnumber, hposition]
    · exact hbuffer _ _ (.inl (by rw [headerRoom]; omega))
  · cases hcount

/-- Items that were packed and counted are the byte area. -/
theorem holdsItems_of_packItems {packed counted : Packet}
    (hpack : packet.resetBytePointer.packItems items = some (.ok (), packed))
    (hcount : packed.setByteCountFromPosition = (.ok (), counted)) :
    counted.HoldsItems items ∧
      packed.position = counted.byteOffset + counted.byteCount.toNat ∧
      counted.buffer.slice headerRoom 4 = packet.buffer.slice headerRoom 4 := by
  have hminimum : 549 ≤ packet.capacity := packet.minimum_le_length
  have hstart := packet.byteOffset_le
  have hlow := packet.le_byteOffset
  obtain ⟨hpacked, hfits⟩ :
      packed = packet.resetBytePointer.placed (bytesOfItems packet.byteOffset items) ∧
        packet.byteOffset + (bytesOfItems packet.byteOffset items).length ≤ packet.capacity :=
    packItems_eq_ok (Nat.le_trans hstart hminimum) hpack
  have hbuffer : packed.buffer =
      packet.buffer.patch packet.byteOffset (bytesOfItems packet.byteOffset items) := by
    rw [hpacked]
    rfl
  have hoffset : packed.byteOffset = packet.byteOffset := by
    rw [hpacked]
    exact packet.resetBytePointer.byteOffset_patch_behind _ (Nat.le_trans (by decide) hlow)
  have hposition : packed.position =
      packet.byteOffset + (bytesOfItems packet.byteOffset items).length := by
    rw [hpacked]
    rfl
  have hcounted := holdsItems_of_counted (by rw [hoffset, hposition])
    (by rw [hposition, capacity, hbuffer, Bytes.length_patch]; exact hfits)
    (by rw [hoffset, hbuffer]; exact Bytes.slice_patch_self hfits) hcount
  refine ⟨hcounted.1, hcounted.2.1, ?_⟩
  rw [hcounted.2.2, hbuffer]
  apply Bytes.slice_patch_outside
  exact Or.inl (Nat.le_trans (by decide) hlow)

/-- A packet that shows the same message holds the same items. -/
theorem holdsItems_of_shows {message : Bytes} {decoded : Packet}
    (hholds : packet.HoldsItems items) (hlength : message.length = packet.totalLength)
    (hshows : packet.Shows message) (hdecoded : decoded.Shows message)
    (hroom : headerRoom + message.length ≤ decoded.capacity) :
    decoded.HoldsItems items ∧ decoded.byteOffset = packet.byteOffset ∧
      decoded.byteCount = packet.byteCount := by
  have hlow := packet.le_byteOffset
  have htotal : headerRoom + message.length =
      packet.byteOffset + packet.byteCount.toNat := by
    rw [hlength, totalLength, headerRoom]
    omega
  rw [headerRoom] at htotal
  have hstart := byteOffset_of_shows hshows (by omega)
  have hcounts := counts_eq_of_shows hdecoded hshows (by rw [headerRoom] at hstart; omega)
  have hoffset : decoded.byteOffset = packet.byteOffset := by
    rw [byteOffset, byteOffset, hcounts.1]
  have hplace : headerRoom + (packet.byteOffset - headerRoom) = packet.byteOffset :=
    Nat.add_sub_cancel' (Nat.le_trans (by decide) hlow)
  have harea : decoded.buffer.slice packet.byteOffset packet.byteCount.toNat =
      packet.buffer.slice packet.byteOffset packet.byteCount.toNat := by
    have hinside : packet.byteOffset - headerRoom + packet.byteCount.toNat ≤ message.length := by
      rw [headerRoom]
      omega
    rw [← hplace, slice_of_shows hdecoded _ _ hinside, slice_of_shows hshows _ _ hinside]
  refine ⟨⟨?_, ?_, ?_⟩, hoffset, hcounts.2⟩
  · rw [hcounts.2, hoffset]
    exact hholds.count_eq
  · rw [hcounts.2, hoffset, ← htotal]
    exact hroom
  · rw [hcounts.2, hoffset, harea]
    exact hholds.slice_eq

/-- A packet that holds items has a message, which reaches to the end of the items. -/
theorem exists_message_of_holdsItems (hholds : packet.HoldsItems items) :
    ∃ message, packet.message = .ok message ∧ packet.Shows message ∧
      message.length = packet.totalLength ∧ minimumMessage ≤ message.length := by
  have hlow := packet.le_byteOffset
  have hend : headerRoom + packet.totalLength =
      packet.byteOffset + packet.byteCount.toNat := by
    rw [totalLength, headerRoom]
    omega
  have hfits : packet.Fits := by
    rw [Fits, hend]
    exact hholds.fits
  have hlength : (packet.buffer.slice headerRoom packet.totalLength).length =
      packet.totalLength := by
    rw [Bytes.length_slice]
    rw [Fits, capacity] at hfits
    omega
  refine ⟨packet.buffer.slice headerRoom packet.totalLength, ?_, ?_, hlength, ?_⟩
  · rw [message_eq, if_pos hfits]
  · rw [Shows, hlength]
  · rw [hlength, minimumMessage]
    rw [headerRoom] at hend
    omega

/-- Items that could be packed and counted are unpacked as they were, from the packet itself and
from the packet made from its message.  There is such a packet exactly if the marker is in its
place. -/
theorem unpacksTo_of_packItems {packed counted : Packet}
    (hbounded : ∀ item ∈ items, item.Bounded)
    (hpack : packet.resetBytePointer.packItems items = some (.ok (), packed))
    (hcount : packed.setByteCountFromPosition = (.ok (), counted)) :
    counted.UnpacksTo items packed.position ∧
      ∃ message, counted.message = .ok message ∧
        ((∃ decoded, ofMessage message = .ok decoded) ↔ packet.hasMarker = true) ∧
        ∀ decoded, ofMessage message = .ok decoded →
          decoded.UnpacksTo items packed.position := by
  obtain ⟨hholds, hposition, hmarker⟩ := holdsItems_of_packItems hpack hcount
  obtain ⟨message, hmessage, hshows, hlength, hminimum⟩ := exists_message_of_holdsItems hholds
  have hfirst : message.slice 0 4 = packet.buffer.slice headerRoom 4 := by
    rw [← hmarker]
    exact (slice_of_shows hshows 0 4 (Nat.le_trans (by decide) hminimum)).symm
  refine ⟨?_, message, hmessage, ?_, ?_⟩
  · rw [hposition]
    exact unpacksTo_of_holdsItems hbounded hholds
  · rw [hasMarker, beq_iff_eq, ← hfirst]
    constructor
    · rintro ⟨decoded, hdecoded⟩
      exact (shows_of_ofMessage hdecoded).1
    · intro hmarked
      obtain ⟨decoded, hdecoded, -⟩ := exists_ofMessage hminimum hmarked
      exact ⟨decoded, hdecoded⟩
  · intro decoded hdecoded
    obtain ⟨-, hshown, hroom⟩ := shows_of_ofMessage hdecoded
    obtain ⟨hitems, hoffset, hbytes⟩ := holdsItems_of_shows hholds hlength hshows hshown hroom
    rw [hposition, ← hoffset, ← hbytes]
    exact unpacksTo_of_holdsItems hbounded hitems

end Wire

/-- A text that needs padding and a surrogate pair, behind it a word at an odd position and a
text with the highest single byte. -/
theorem unpacksTo_of_packItems_mixed :
    let items : List Item := [.text "a😀" true, .byte 1, .word 0x0203, .text "ÿ" false]
    ∃ packed counted message decoded,
      new.resetBytePointer.packItems items = some (.ok (), packed) ∧
      packed.setByteCountFromPosition = (.ok (), counted) ∧
      packed.position = 53 ∧
      counted.UnpacksTo items 53 ∧
      counted.message = .ok message ∧
      ofMessage message = .ok decoded ∧
      decoded.UnpacksTo items 53 := by
  intro items
  obtain ⟨packed, hpack, hpacked⟩ :
      ∃ packed, new.resetBytePointer.packItems items = some (.ok (), packed) ∧
        (packed.setByteCountFromPosition.1.isOk && packed.position == 53) = true :=
    exists_ok_of_any (fun packed => packed.setByteCountFromPosition.1.isOk && packed.position == 53)
      (by decide +kernel)
  obtain ⟨hcounted, hat⟩ := Bool.and_eq_true_iff.mp hpacked
  have hcount : packed.setByteCountFromPosition = (.ok (), packed.setByteCountFromPosition.2) :=
    attempt_eq_ok hcounted
  have hposition : packed.position = 53 := eq_of_beq hat
  have hbounded : ∀ item ∈ items, item.Bounded := by
    decide +kernel
  obtain ⟨hunpacks, message, hmessage, hmarker, hdecoded⟩ :=
    unpacksTo_of_packItems hbounded hpack hcount
  obtain ⟨decoded, hdecode⟩ := hmarker.mpr (by decide +kernel)
  rw [hposition] at hunpacks hdecoded
  exact ⟨packed, _, message, decoded, hpack, hcount, hposition, hunpacks, hmessage, hdecode,
    hdecoded decoded hdecode⟩

end SmbExchange.Packet

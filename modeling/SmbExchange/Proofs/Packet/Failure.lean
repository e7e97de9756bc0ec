import SmbExchange.Proofs.Packet.Items

/-!
# Failed operations

An operation that checks its range before it writes leaves the packet alone
when it fails.  All operations do but one.  A UTF-16 text at an odd position is
packed in two writes, first the zero that aligns it and then the text, and each
write checks its own range only.  Where the zero fits and the text does not,
the zero stays.  This can be seen unless a zero stood there before.
-/

namespace SmbExchange.Packet

/-- An operation on a packet that can fail. -/
inductive Access where
  | setParameter (index : UInt64) (value : UInt16)
  | setParameterLong (index : UInt64) (value : UInt32)
  | setBytes (source : Bytes)
  | setByteCountFromPosition
  | pack (item : Item)
  | unpack (type : ItemType)
  | unpackText (length : Nat) (unicode : Bool)
  deriving DecidableEq, Repr

namespace Access

/-- The operation without the value that it gives. -/
def run (packet : Packet) : Access → Option (Attempt Unit)
  | setParameter index value => packet.setParameter index value
  | setParameterLong index value => packet.setParameterLong index value
  | setBytes source => some (packet.setBytes source)
  | setByteCountFromPosition => some packet.setByteCountFromPosition
  | pack item => packet.packItem item
  | unpack type =>
    (packet.unpackItem type).map fun attempt => attempt.map (Except.map fun _ => ()) id
  | unpackText length unicode =>
    (packet.unpackStringOfLength length unicode).map fun attempt =>
      attempt.map (Except.map fun _ => ()) id

/-- The offset of the words can be computed from their index. -/
def IndexInRange : Access → Prop
  | setParameter index _ | setParameterLong index _ => wordOffset index < positionSpan
  | _ => True

/-- UTF-16 text is packed at an odd position where no zero stands. -/
def Spoils (packet : Packet) : Access → Prop
  | pack (.text _ true) =>
    packet.position % 2 = 1 ∧ packet.buffer.byteAt packet.position ≠ 0
  | _ => False

instance (packet : Packet) (access : Access) : Decidable (access.Spoils packet) :=
  match access with
  | pack (.text _ true) => inferInstanceAs (Decidable (_ ∧ _))
  | pack (.text _ false) | pack (.byte _) | pack (.word _) | pack (.long _) | pack (.quad _)
  | pack (.raw _) | setParameter _ _ | setParameterLong _ _ | setBytes _
  | setByteCountFromPosition | unpack _ | unpackText _ _ => inferInstanceAs (Decidable False)

end Access

/-- If the attempt failed, the packet is what it was. -/
def KeptOnFailure {α : Type} (packet : Packet) (attempt : Attempt α) : Prop :=
  ∀ fault, attempt.1 = .error fault → attempt.2 = packet

/-! ## One check before the only write -/

section Kept

variable (packet : Packet)

theorem keptOnFailure_ok {α : Type} (value : α) (after : Packet) :
    packet.KeptOnFailure (.ok value, after) :=
  fun _ hfault => nomatch hfault

theorem keptOnFailure_error {α : Type} (fault : Fault) :
    packet.KeptOnFailure ((.error fault, packet) : Attempt α) :=
  fun _ _ => rfl

theorem keptOnFailure_map {α β : Type} {packet : Packet} {attempt : Attempt α}
    (hkept : packet.KeptOnFailure attempt) (result : α → β) :
    packet.KeptOnFailure (attempt.map (Except.map result) id) := by
  obtain ⟨fault | value, after⟩ := attempt
  · exact fun _ _ => hkept fault rfl
  · exact packet.keptOnFailure_ok _ _

theorem keptOnFailure_store (offset : Nat) (source : Bytes) :
    packet.KeptOnFailure (packet.store offset source) := by
  rw [store]
  split
  · exact packet.keptOnFailure_ok _ _
  · exact packet.keptOnFailure_error _

theorem keptOnFailure_pack (source : Bytes) : packet.KeptOnFailure (packet.pack source) := by
  have hkept := packet.keptOnFailure_store packet.position source
  rw [pack]
  generalize packet.store packet.position source = attempt at hkept ⊢
  obtain ⟨fault | ⟨⟩, stored⟩ := attempt
  · exact hkept
  · exact packet.keptOnFailure_ok _ _

theorem keptOnFailure_packLatin (text : String) :
    packet.KeptOnFailure (packet.packLatin text) := by
  rw [packLatin]
  split
  · exact packet.keptOnFailure_error _
  · exact packet.keptOnFailure_pack _

theorem keptOnFailure_setBytes (source : Bytes) :
    packet.KeptOnFailure (packet.setBytes source) := by
  have hkept := packet.keptOnFailure_store packet.byteOffset source
  rw [setBytes]
  split
  · generalize packet.store packet.byteOffset source = attempt at hkept ⊢
    obtain ⟨fault | ⟨⟩, stored⟩ := attempt
    · exact hkept
    · exact packet.keptOnFailure_ok _ _
  · exact packet.keptOnFailure_error _

theorem keptOnFailure_setByteCountFromPosition :
    packet.KeptOnFailure packet.setByteCountFromPosition := by
  rw [setByteCountFromPosition]
  split
  · exact packet.keptOnFailure_ok _ _
  · exact packet.keptOnFailure_error _

theorem keptOnFailure_unpack (length : Nat) : packet.KeptOnFailure (packet.unpack length) := by
  rw [unpack]
  split
  · exact packet.keptOnFailure_ok _ _
  · exact packet.keptOnFailure_error _

theorem keptOnFailure_unpackString {packet : Packet} {unicode : Bool} {attempt : Attempt String}
    (hunpack : packet.unpackString unicode = some attempt) : packet.KeptOnFailure attempt := by
  obtain ⟨start, -, rfl⟩ := Option.map_eq_some_iff.mp hunpack
  split
  · exact packet.keptOnFailure_ok _ _
  · exact packet.keptOnFailure_error _

theorem keptOnFailure_unpackStringOfLength {packet : Packet} {length : Nat} {unicode : Bool}
    {attempt : Attempt String}
    (hunpack : packet.unpackStringOfLength length unicode = some attempt) :
    packet.KeptOnFailure attempt := by
  obtain ⟨start, -, rfl⟩ := Option.map_eq_some_iff.mp hunpack
  split
  · exact packet.keptOnFailure_ok _ _
  · exact packet.keptOnFailure_error _

theorem keptOnFailure_unpackItem {packet : Packet} {type : ItemType} {attempt : Attempt Item}
    (hunpack : packet.unpackItem type = some attempt) : packet.KeptOnFailure attempt := by
  obtain ⟨length, result, rfl⟩ | ⟨unicode, found, hfound, rfl⟩ := unpackItem_cases hunpack
  · exact keptOnFailure_map (packet.keptOnFailure_unpack length) result
  · exact keptOnFailure_map (keptOnFailure_unpackString hfound) _

end Kept

/-! ## Two writes -/

section Padding

variable {packet : Packet}

theorem patch_of_capacity_le {offset : Nat} (houtside : packet.capacity ≤ offset)
    (source : Bytes) : packet.patch offset source = packet := by
  have hnothing : packet.buffer.patch offset source = packet.buffer := by
    rw [capacity] at houtside
    rw [Bytes.patch, List.take_of_length_le houtside, Nat.sub_eq_zero_of_le houtside,
      List.drop_eq_nil_of_le (by omega), List.take_zero, List.append_nil, List.append_nil]
  simp only [patch, hnothing]

/-- Writing a zero is seen unless one was there. -/
theorem patch_zero_eq_self_iff (packet : Packet) (offset : Nat) :
    packet.patch offset [0] = packet ↔ packet.buffer.byteAt offset = 0 := by
  rcases Nat.lt_or_ge offset packet.buffer.length with hinside | houtside
  · have hpatched : (packet.patch offset [0]).buffer.byteAt offset = 0 := by
      rw [Bytes.byteAt, List.getD_eq_getElem?_getD, patch, Bytes.getElem?_patch,
        if_pos ⟨Nat.le_refl _, Nat.lt_succ_self _, hinside⟩, Nat.sub_self]
      rfl
    constructor
    · intro hsame
      rw [← hpatched, hsame]
    · intro hzero
      have hbuffer : packet.buffer.patch offset [0] = packet.buffer := by
        apply List.ext_getElem?
        intro index
        rw [Bytes.getElem?_patch]
        split
        · rename_i hrange
          have hindex : index = offset := by
            rw [List.length_singleton] at hrange
            omega
          rw [hindex, Nat.sub_self, Bytes.getElem?_eq_byteAt hinside, hzero]
          rfl
        · rfl
      simp only [patch, hbuffer]
  · refine iff_of_true (patch_of_capacity_le houtside _) ?_
    rw [Bytes.byteAt, List.getD_eq_getElem?_getD, List.getElem?_eq_none houtside]
    rfl

/-- What aligns the cursor: a zero at an odd position, if there is room for it. -/
theorem snd_padTo {aligned : Nat} (haligned : aligned = packet.position + packet.position % 2) :
    (packet.padTo aligned).2 =
      if packet.position % 2 = 1 then packet.patch packet.position [0] else packet := by
  rw [padTo]
  rcases Nat.mod_two_eq_zero_or_one packet.position with heven | hodd
  · rw [if_neg (by omega), if_neg (by omega)]
  · have hzero : Bytes.zeros (aligned - packet.position) = [0] := by
      rw [haligned, hodd, Nat.add_sub_cancel_left]
      rfl
    rw [if_pos (by omega), if_pos hodd, hzero, store]
    split
    · rfl
    · rename_i houtside
      exact (patch_of_capacity_le (Nat.le_of_lt_succ (Nat.lt_of_not_le houtside)) _).symm

/-- The text writes nothing if it fails, and the padding stays. -/
theorem packUtf16_of_error {text : String} {aligned : Nat} {fault : Fault}
    (hfault : (packet.packUtf16 aligned text).1 = .error fault) :
    (packet.packUtf16 aligned text).2 = (packet.padTo aligned).2 := by
  rw [packUtf16] at hfault ⊢
  generalize packet.padTo aligned = attempt at hfault ⊢
  obtain ⟨fault' | ⟨⟩, padded⟩ := attempt
  · rfl
  · have hkept := padded.keptOnFailure_store aligned
      (Utf16.toBytes (Utf16.encode text.toList) ++ [0, 0])
    simp only at hfault ⊢
    generalize padded.store aligned (Utf16.toBytes (Utf16.encode text.toList) ++ [0, 0]) =
      attempt at hkept hfault ⊢
    obtain ⟨fault' | ⟨⟩, stored⟩ := attempt
    · exact hkept fault' rfl
    · cases hfault

end Padding

/-! ## What decides whether packing fails -/

section Outcome

variable (packet : Packet) {left right : Packet}

theorem fst_store (offset : Nat) (source : Bytes) :
    (packet.store offset source).1 =
      if offset + source.length ≤ packet.capacity then .ok ()
      else .error (.bufferOverflow offset source.length packet.capacity) := by
  by_cases hfits : offset + source.length ≤ packet.capacity
  · rw [store_of_fits hfits, if_pos hfits]
  · rw [store_of_not_fits packet _ _ hfits, if_neg hfits]

theorem fst_pack (source : Bytes) :
    (packet.pack source).1 = (packet.store packet.position source).1 := by
  rw [pack]
  rcases packet.store packet.position source with ⟨fault | ⟨⟩, stored⟩ <;> rfl

theorem capacity_padTo (aligned : Nat) :
    (packet.padTo aligned).2.capacity = packet.capacity := by
  rw [padTo]
  split
  · rw [store]
    split
    · exact capacity_patch packet _ _
    · rfl
  · rfl

/-- The text is stored behind its padding, in a packet of the same capacity. -/
theorem fst_packUtf16 (aligned : Nat) (text : String) :
    (packet.packUtf16 aligned text).1 = (packet.padTo aligned).1.bind fun _ =>
      (packet.store aligned (Utf16.toBytes (Utf16.encode text.toList) ++ [0, 0])).1 := by
  have hcapacity := packet.capacity_padTo aligned
  rw [packUtf16]
  generalize packet.padTo aligned = attempt at hcapacity ⊢
  obtain ⟨fault | ⟨⟩, padded⟩ := attempt
  · rfl
  · have hstore := padded.fst_store aligned (Utf16.toBytes (Utf16.encode text.toList) ++ [0, 0])
    rw [hcapacity, ← fst_store] at hstore
    simp only [Except.bind, ← hstore]
    rcases padded.store aligned (Utf16.toBytes (Utf16.encode text.toList) ++ [0, 0]) with
      ⟨fault | ⟨⟩, stored⟩ <;> rfl

/-- Whether a text can be packed is decided by the room alone. -/
theorem map_fst_packString_congr (hcapacity : left.capacity = right.capacity)
    (hposition : left.position = right.position) (text : String) (unicode : Bool) :
    (left.packString text unicode).map Prod.fst =
      (right.packString text unicode).map Prod.fst := by
  have hstart : left.textStart? unicode = right.textStart? unicode := by
    rw [textStart?, textStart?, hposition]
  rw [packString, packString, hstart]
  cases right.textStart? unicode with
  | none => rfl
  | some start =>
    apply congrArg some
    cases unicode with
    | true =>
      have hpad : (left.padTo start).1 = (right.padTo start).1 := by
        rw [padTo, padTo, hposition]
        split
        · rw [fst_store, fst_store, hcapacity]
        · rfl
      have htext : (left.packUtf16 start text).1 = (right.packUtf16 start text).1 := by
        simp only [fst_packUtf16, hpad, fst_store, hcapacity]
      exact htext
    | false =>
      have htext : (left.packLatin text).1 = (right.packLatin text).1 := by
        rw [packLatin, packLatin]
        split
        · rfl
        · rw [fst_pack, fst_pack, fst_store, fst_store, hcapacity, hposition]
      exact htext

/-- Whether an item can be packed is decided by the room alone. -/
theorem map_fst_packItem_congr (hcapacity : left.capacity = right.capacity)
    (hposition : left.position = right.position) (item : Item) :
    (left.packItem item).map Prod.fst = (right.packItem item).map Prod.fst := by
  have hpack : ∀ source, some (left.pack source).1 = some (right.pack source).1 := fun source => by
    rw [fst_pack, fst_pack, fst_store, fst_store, hcapacity, hposition]
  cases item with
  | text value unicode => exact map_fst_packString_congr hcapacity hposition value unicode
  | byte | word | long | quad | raw => exact hpack _

end Outcome

/-! ## All operations -/

section Access

variable {packet after : Packet} {access : Access} {fault : Fault}

theorem byteAt_ne_zero_of_spoils (hspoils : access.Spoils packet) :
    packet.buffer.byteAt packet.position ≠ 0 := by
  unfold Access.Spoils at hspoils
  split at hspoils
  · exact hspoils.2
  · exact hspoils.elim

/-- The packet after a text that could not be packed. -/
theorem eq_of_packString_error {text : String} {unicode : Bool}
    (hpack : packet.packString text unicode = some (.error fault, after)) :
    after = if (Access.pack (.text text unicode)).Spoils packet then
      packet.patch packet.position [0] else packet := by
  obtain ⟨start, hstart, hpacked⟩ := Option.map_eq_some_iff.mp hpack
  cases unicode with
  | false =>
    have hkept := packet.keptOnFailure_packLatin text fault (congrArg Prod.fst hpacked)
    change packet.packLatin text = _ at hpacked
    rw [hpacked] at hkept
    exact hkept
  | true =>
    change packet.packUtf16 start text = _ at hpacked
    have hpadded := packUtf16_of_error (congrArg Prod.fst hpacked)
    rw [hpacked, snd_padTo (textStart?_eq_some_iff.mp hstart).2] at hpadded
    refine hpadded.trans ?_
    by_cases hodd : packet.position % 2 = 1
    · by_cases hzero : packet.buffer.byteAt packet.position = 0
      · rw [if_pos hodd, if_neg fun hspoils => hspoils.2 hzero]
        exact (patch_zero_eq_self_iff packet _).mpr hzero
      · rw [if_pos hodd, if_pos ⟨hodd, hzero⟩]
    · rw [if_neg hodd, if_neg fun hspoils => hodd hspoils.1]

/-- The packet after an operation that failed. -/
theorem eq_of_run_error (hrun : access.run packet = some (.error fault, after)) :
    after = if access.Spoils packet then packet.patch packet.position [0] else packet := by
  have hkept : ∀ {attempt : Attempt Unit}, packet.KeptOnFailure attempt →
      attempt = (.error fault, after) → after = packet := by
    rintro attempt hkept rfl
    exact hkept fault rfl
  cases access with
  | setParameter index value =>
    obtain ⟨offset, -, hstored⟩ := Option.map_eq_some_iff.mp hrun
    exact hkept (packet.keptOnFailure_store _ _) hstored
  | setParameterLong index value =>
    obtain ⟨offset, -, hstored⟩ := Option.map_eq_some_iff.mp hrun
    exact hkept (packet.keptOnFailure_store _ _) hstored
  | setBytes source => exact hkept (packet.keptOnFailure_setBytes source) (Option.some.inj hrun)
  | setByteCountFromPosition =>
    exact hkept packet.keptOnFailure_setByteCountFromPosition (Option.some.inj hrun)
  | unpack type =>
    obtain ⟨attempt, hunpack, hdone⟩ := Option.map_eq_some_iff.mp hrun
    exact hkept (keptOnFailure_map (keptOnFailure_unpackItem hunpack) _) hdone
  | unpackText length unicode =>
    obtain ⟨attempt, hunpack, hdone⟩ := Option.map_eq_some_iff.mp hrun
    exact hkept (keptOnFailure_map (keptOnFailure_unpackStringOfLength hunpack) _) hdone
  | pack item =>
    cases item with
    | text value unicode => exact eq_of_packString_error hrun
    | byte | word | long | quad | raw =>
      exact hkept (packet.keptOnFailure_pack _) (Option.some.inj hrun)

/-- Nothing overflows far from the end of the address space. -/
theorem exists_run (access : Access) (haddress : packet.position + 1 < positionSpan)
    (hindex : access.IndexInRange) : ∃ attempt, access.run packet = some attempt := by
  have hstart : ∀ unicode, ∃ start, packet.textStart? unicode = some start := fun unicode =>
    ⟨_, textStart?_eq_some_iff.mpr ⟨fun _ => haddress, rfl⟩⟩
  have hword : ∀ {index : UInt64}, wordOffset index < positionSpan →
      wordOffset? index = some (wordOffset index) := fun hindex => by
    rw [wordOffset?_eq, inSpan?_of_lt hindex]
  cases access with
  | setParameter index value => exact ⟨_, congrArg (Option.map _) (hword hindex)⟩
  | setParameterLong index value => exact ⟨_, congrArg (Option.map _) (hword hindex)⟩
  | setBytes source => exact ⟨_, rfl⟩
  | setByteCountFromPosition => exact ⟨_, rfl⟩
  | pack item =>
    cases item with
    | text value unicode =>
      obtain ⟨start, hfound⟩ := hstart unicode
      exact ⟨_, congrArg (Option.map _) hfound⟩
    | byte | word | long | quad | raw => exact ⟨_, rfl⟩
  | unpack type =>
    cases type with
    | text unicode =>
      obtain ⟨start, hfound⟩ := hstart unicode
      exact ⟨_, congrArg (Option.map _) (congrArg (Option.map _) (congrArg (Option.map _) hfound))⟩
    | byte | word | long | quad | raw => exact ⟨_, rfl⟩
  | unpackText length unicode =>
    obtain ⟨start, hfound⟩ := hstart unicode
    exact ⟨_, congrArg (Option.map _) (congrArg (Option.map _) hfound)⟩

/-- With the cursor in the lower half of the addresses, and with an index whose offset is one, every
operation has a result.  A failed operation changes the packet only if it packs UTF-16 text at an
odd position where no zero stands, and then it leaves a zero there. -/
theorem unchanged_iff_of_run_error (packet : Packet) (access : Access) :
    (packet.position < 0x8000000000000000 → access.IndexInRange →
      ∃ attempt, access.run packet = some attempt) ∧
    ∀ (fault : Fault) (after : Packet), access.run packet = some (.error fault, after) →
      (after = packet ↔ ¬ access.Spoils packet) ∧
        (access.Spoils packet → after = packet.patch packet.position [0]) := by
  refine ⟨fun haddress => exists_run access (Nat.lt_of_le_of_lt haddress (by decide)), ?_⟩
  intro fault after hrun
  rw [eq_of_run_error hrun]
  by_cases hspoils : access.Spoils packet
  · rw [if_pos hspoils]
    refine ⟨iff_of_false ?_ fun hclean => hclean hspoils, fun _ => rfl⟩
    exact fun hsame => byteAt_ne_zero_of_spoils hspoils ((patch_zero_eq_self_iff _ _).mp hsame)
  · rw [if_neg hspoils]
    exact ⟨iff_of_true rfl hspoils, fun hspoils' => absurd hspoils' hspoils⟩

/-- A packet of the least capacity with its cursor two bytes before the end. -/
def nearlyFull : Packet :=
  ((blank minimumCapacity (Nat.le_refl _)).patch 547 [0xAA]).setPosition 547

theorem packText_nearlyFull :
    (Access.pack (.text "" true)).run nearlyFull =
      some (.error (.bufferOverflow 548 2 549), nearlyFull.patch 547 [0]) := by
  have hstart : nearlyFull.textStart? true = some 548 := rfl
  have hpad : nearlyFull.padTo 548 = (.ok (), nearlyFull.patch 547 [0]) := by
    rw [padTo, if_pos (by decide)]
    exact store_of_fits (by decide +kernel)
  have hcapacity : (nearlyFull.patch 547 [0]).capacity = 549 := by decide +kernel
  have hstore := (nearlyFull.patch 547 [0]).store_of_not_fits 548
    (Utf16.toBytes (Utf16.encode "".toList) ++ [0, 0]) (by decide +kernel)
  rw [hcapacity] at hstore
  rw [Access.run, packItem, packString, hstart, Option.map_some, if_pos rfl, packUtf16, hpad]
  simp only [hstore]
  rfl

theorem packText_keeps_padding_at_end :
    nearlyFull.position < 0x8000000000000000 ∧
      (Access.pack (.text "" true)).run nearlyFull =
        some (.error (.bufferOverflow 548 2 549), nearlyFull.patch nearlyFull.position [0]) ∧
      nearlyFull.patch nearlyFull.position [0] ≠ nearlyFull := by
  have hspoils : (Access.pack (.text "" true)).Spoils nearlyFull := by decide +kernel
  obtain ⟨-, hclaim⟩ := unchanged_iff_of_run_error nearlyFull (.pack (.text "" true))
  obtain ⟨hsame, -⟩ := hclaim _ _ packText_nearlyFull
  exact ⟨by decide, packText_nearlyFull, fun hkept => hsame.mp hkept hspoils⟩

theorem failed_operation_spoils_packet :
    ¬ ∀ (packet : Packet) (access : Access) (fault : Fault) (after : Packet),
      packet.position < 0x8000000000000000 → access.run packet = some (.error fault, after) →
        after = packet := by
  intro hkept
  have hsame := hkept nearlyFull (.pack (.text "" true)) _ _ (by decide) packText_nearlyFull
  exact absurd hsame (by decide +kernel)

end Access

end SmbExchange.Packet

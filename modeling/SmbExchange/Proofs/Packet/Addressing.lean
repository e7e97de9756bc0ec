import SmbExchange.Proofs.Packet.Failure
import SmbExchange.Proofs.Text.Inverse

/-!
# Offsets that overflow

Whether a range lies in the buffer is decided without overflow, but the offset
that is checked has been computed before, and that may overflow.  The offset of
a parameter word is computed from its index, which is any machine word, and the
start of a UTF-16 text from the cursor.  Where the offset is a machine word, an
access acts there or is refused.  Where it is not, there is no result at all,
although no buffer reaches that far and the access could be refused as well.
-/

namespace SmbExchange.Packet

open LittleEndian (ofWord ofLong toLong)

/-- The start of a text in numbers without bound. -/
def exactStart (position : Nat) (unicode : Bool) : Nat :=
  position + if unicode then position % 2 else 0

/-- The last position has no next one that is even. -/
def StartOverflows (position : UInt64) (unicode : Bool) : Prop :=
  unicode = true ∧ position.toNat + 1 = positionSpan

instance (position : UInt64) (unicode : Bool) : Decidable (StartOverflows position unicode) :=
  inferInstanceAs (Decidable (_ ∧ _))

theorem textStart?_setPosition_eq_none_iff (packet : Packet) (position : UInt64)
    (unicode : Bool) :
    (packet.setPosition position).textStart? unicode = none ↔
      StartOverflows position unicode := by
  have hposition : position.toNat < positionSpan := position.toNat_lt
  rw [textStart?_eq_none_iff, StartOverflows]
  change unicode = true ∧ positionSpan ≤ position.toNat + 1 ↔
    unicode = true ∧ position.toNat + 1 = positionSpan
  exact and_congr_right fun _ => by omega

theorem textStart?_setPosition {position : UInt64} {unicode : Bool}
    (hfits : ¬ StartOverflows position unicode) (packet : Packet) :
    (packet.setPosition position).textStart? unicode =
      some (exactStart position.toNat unicode) := by
  have hposition : position.toNat < positionSpan := position.toNat_lt
  refine textStart?_eq_some_iff.mpr ⟨fun hunicode => ?_, rfl⟩
  exact Nat.lt_of_le_of_ne hposition fun hlast => hfits ⟨hunicode, hlast⟩

/-! ## Refusal -/

/-- The attempt reports a range that leaves the buffer, and the packet is what it was. -/
def Refused {α : Type} (packet : Packet) (attempt : Attempt α) : Prop :=
  (∃ offset length, attempt.1 = .error (.bufferOverflow offset length packet.capacity)) ∧
    attempt.2 = packet

section Refused

variable {packet : Packet}

theorem refused_error {α : Type} (packet : Packet) (offset length : Nat) :
    packet.Refused ((.error (.bufferOverflow offset length packet.capacity), packet) :
      Attempt α) :=
  ⟨⟨offset, length, rfl⟩, rfl⟩

theorem exists_eq_of_refused {α : Type} {attempt : Attempt α} (hrefused : packet.Refused attempt) :
    ∃ offset length,
      attempt = (.error (.bufferOverflow offset length packet.capacity), packet) := by
  obtain ⟨⟨offset, length, hfault⟩, hkept⟩ := hrefused
  exact ⟨offset, length, Prod.ext hfault hkept⟩

theorem refused_store {offset : Nat} {source : Bytes}
    (houtside : packet.capacity < offset + source.length) :
    packet.Refused (packet.store offset source) := by
  rw [store_of_not_fits packet _ _ (Nat.not_le_of_lt houtside)]
  exact packet.refused_error _ _

end Refused

/-! ## Parameter words -/

/-- An access to parameter words whose place is computed from an index. -/
inductive WordAccess where
  | readLong (index : UInt64)
  | setWord (index : UInt64) (value : UInt16)
  | setLong (index : UInt64) (value : UInt32)
  deriving DecidableEq, Repr

namespace WordAccess

def index : WordAccess → UInt64
  | readLong index | setWord index _ | setLong index _ => index

/-- The number of bytes that are read or written. -/
def width : WordAccess → Nat
  | readLong _ | setLong _ _ => 4
  | setWord _ _ => 2

def run (packet : Packet) : WordAccess → Option (Attempt (Option UInt32))
  | readLong index => (packet.parameterLong index).map fun found => (found.map some, packet)
  | setWord index value =>
    (packet.setParameter index value).map fun attempt => attempt.map (Except.map fun _ => none) id
  | setLong index value =>
    (packet.setParameterLong index value).map fun attempt =>
      attempt.map (Except.map fun _ => none) id

/-- What the access does at an offset where it fits. -/
def doneAt (packet : Packet) (offset : Nat) : WordAccess → Attempt (Option UInt32)
  | readLong _ => (.ok (some (toLong (packet.buffer.slice offset 4))), packet)
  | setWord _ value => (.ok none, packet.patch offset (ofWord value))
  | setLong _ value => (.ok none, packet.patch offset (ofLong value))

/-- The access acts where its index says, or is refused if it does not fit there. -/
structure Confined (packet : Packet) (access : WordAccess) : Prop where
  run_eq_doneAt : wordOffset access.index + access.width ≤ packet.capacity →
    access.run packet = some (access.doneAt packet (wordOffset access.index))
  refused : packet.capacity < wordOffset access.index + access.width →
    ∃ attempt, access.run packet = some attempt ∧ packet.Refused attempt

/-- An offset that overflows is not even compared with the buffer. -/
theorem run_eq_none_iff (packet : Packet) (access : WordAccess) :
    access.run packet = none ↔ positionSpan ≤ wordOffset access.index := by
  rw [← inSpan?_eq_none_iff, ← wordOffset?_eq]
  cases access with
  | readLong index => exact Option.map_eq_none_iff.trans Option.map_eq_none_iff
  | setWord index value => exact Option.map_eq_none_iff.trans Option.map_eq_none_iff
  | setLong index value => exact Option.map_eq_none_iff.trans Option.map_eq_none_iff

/-- Where the offset does not overflow, the buffer decides. -/
theorem run_eq {packet : Packet} {access : WordAccess}
    (hspan : wordOffset access.index < positionSpan) :
    access.run packet = some
      (if wordOffset access.index + access.width ≤ packet.capacity then
        access.doneAt packet (wordOffset access.index)
      else
        (.error (.bufferOverflow (wordOffset access.index) access.width packet.capacity),
          packet)) := by
  have hoffset : wordOffset? access.index = some (wordOffset access.index) := by
    rw [wordOffset?_eq, inSpan?_of_lt hspan]
  have hstore : ∀ offset source,
      (packet.store offset source).map (Except.map fun _ => (none : Option UInt32)) id =
        if offset + source.length ≤ packet.capacity then (.ok none, packet.patch offset source)
        else (.error (.bufferOverflow offset source.length packet.capacity), packet) := by
    intro offset source
    by_cases hfits : offset + source.length ≤ packet.capacity
    · rw [store_of_fits hfits, if_pos hfits]
      rfl
    · rw [store_of_not_fits packet _ _ hfits, if_neg hfits]
      rfl
  cases access with
  | readLong index =>
    change wordOffset? index = some (wordOffset index) at hoffset
    rw [run, parameterLong, hoffset, Option.map_some, Option.map_some, Bytes.readLong, Bytes.read]
    apply congrArg some
    by_cases hfits : wordOffset index + 4 ≤ packet.capacity
    · rw [if_pos (show packet.buffer.Fits _ _ from hfits)]
      exact (if_pos hfits).symm
    · rw [if_neg (show ¬ packet.buffer.Fits _ _ from hfits)]
      exact (if_neg hfits).symm
  | setWord index value =>
    change wordOffset? index = some (wordOffset index) at hoffset
    rw [run, setParameter, hoffset]
    exact congrArg some (hstore (wordOffset index) (ofWord value))
  | setLong index value =>
    change wordOffset? index = some (wordOffset index) at hoffset
    rw [run, setParameterLong, hoffset]
    exact congrArg some (hstore (wordOffset index) (ofLong value))

/-- No buffer reaches the end of the address space, so what overflows would not fit. -/
theorem confined_iff {packet : Packet} (hcapacity : packet.capacity < positionSpan)
    (access : WordAccess) :
    access.Confined packet ↔ wordOffset access.index < positionSpan := by
  rcases Nat.lt_or_ge (wordOffset access.index) positionSpan with hspan | hoverflows
  · refine iff_of_true ⟨fun hfits => ?_, fun houtside => ⟨_, run_eq hspan, ?_⟩⟩ hspan
    · rw [run_eq hspan, if_pos hfits]
    · rw [if_neg (Nat.not_le_of_lt houtside)]
      exact packet.refused_error _ _
  · refine iff_of_false (fun hconfined => ?_) (Nat.not_lt.mpr hoverflows)
    obtain ⟨attempt, hrun, -⟩ := hconfined.refused (by omega)
    rw [(run_eq_none_iff packet access).mpr hoverflows] at hrun
    cases hrun

end WordAccess

/-! ## Texts -/

section Text

variable {packet : Packet} {text : String} {unicode : Bool} {start : Nat}

theorem textAt_eq_readText (packet : Packet) (start limit : Nat) (unicode : Bool) :
    packet.textAt start limit unicode = packet.buffer.readText start limit unicode := by
  cases unicode <;> rfl

theorem refused_unpackString (hstart : packet.textStart? unicode = some start)
    (houtside : packet.capacity < start) :
    ∃ attempt, packet.unpackString unicode = some attempt ∧ packet.Refused attempt := by
  have hfits : ¬ packet.buffer.Fits start 0 := Nat.not_le_of_lt houtside
  rw [unpackString, hstart, Option.map_some]
  refine ⟨_, rfl, ?_⟩
  cases unicode with
  | true =>
    rw [textAt, if_pos rfl, Bytes.readUtf16, if_neg hfits]
    exact packet.refused_error _ _
  | false =>
    rw [textAt, if_neg Bool.false_ne_true, Bytes.readLatin, if_neg hfits]
    exact packet.refused_error _ _

theorem refused_packLatin {encoded : Bytes} (hencoded : Latin.encode text = .ok encoded)
    (houtside : packet.capacity < packet.position) :
    packet.Refused (packet.packLatin text) := by
  rw [packLatin, hencoded]
  simp only [pack]
  rw [store_of_not_fits packet _ _ (by omega)]
  exact packet.refused_error _ _

/-- Behind the buffer there is room neither for the padding nor for the text. -/
theorem refused_packUtf16 (hstart : start = packet.position + packet.position % 2)
    (houtside : packet.capacity < start) : packet.Refused (packet.packUtf16 start text) := by
  rw [packUtf16, padTo]
  by_cases hodd : packet.position < start
  · have hzeros : packet.Refused
        (packet.store packet.position (Bytes.zeros (start - packet.position))) :=
      refused_store (by rw [Bytes.length_zeros]; omega)
    obtain ⟨offset, length, hstore⟩ := exists_eq_of_refused hzeros
    rw [if_pos hodd, hstore]
    exact packet.refused_error _ _
  · have htext : packet.Refused
        (packet.store start (Utf16.toBytes (Utf16.encode text.toList) ++ [0, 0])) :=
      refused_store (Nat.lt_of_lt_of_le houtside (Nat.le_add_right _ _))
    obtain ⟨offset, length, hstore⟩ := exists_eq_of_refused htext
    rw [if_neg hodd]
    simp only [hstore]
    exact packet.refused_error _ _

theorem refused_packString (hstart : packet.textStart? unicode = some start)
    (houtside : packet.capacity < start)
    (hencodable : unicode = false → ∃ encoded, Latin.encode text = .ok encoded) :
    ∃ attempt, packet.packString text unicode = some attempt ∧ packet.Refused attempt := by
  rw [packString, hstart, Option.map_some]
  refine ⟨_, rfl, ?_⟩
  obtain ⟨-, hplace⟩ := textStart?_eq_some_iff.mp hstart
  cases unicode with
  | true => exact refused_packUtf16 hplace houtside
  | false =>
    obtain ⟨encoded, hencoded⟩ := hencodable rfl
    obtain rfl : start = packet.position := hplace
    exact refused_packLatin hencoded houtside

end Text

/-- An access to parameter words acts at its own offset or is refused, and a text behind the buffer
is refused, unless the offset of the word or the start of the text overflows: then there is no
result.  A text that cannot be written in single bytes is refused for that. -/
theorem confined_unless_overflow (packet : Packet) (hcapacity : packet.capacity < positionSpan) :
    (∀ access : WordAccess,
      (access.Confined packet ↔ wordOffset access.index < positionSpan) ∧
      (access.run packet = none ↔ positionSpan ≤ wordOffset access.index)) ∧
    ∀ (position : UInt64) (unicode : Bool),
      packet.capacity < exactStart position.toNat unicode →
      ((packet.setPosition position).unpackString unicode = none ↔
        StartOverflows position unicode) ∧
      (¬ StartOverflows position unicode →
        ∃ attempt, (packet.setPosition position).unpackString unicode = some attempt ∧
          (packet.setPosition position).Refused attempt) ∧
      ∀ text : String,
        ((packet.setPosition position).packString text unicode = none ↔
          StartOverflows position unicode) ∧
        (¬ StartOverflows position unicode →
          (unicode = false → ∃ encoded, Latin.encode text = .ok encoded) →
            ∃ attempt, (packet.setPosition position).packString text unicode = some attempt ∧
              (packet.setPosition position).Refused attempt) ∧
        ∀ fault, unicode = false → Latin.encode text = .error fault →
          (packet.setPosition position).packString text unicode =
            some (.error fault, packet.setPosition position) := by
  refine ⟨fun access => ⟨access.confined_iff hcapacity, access.run_eq_none_iff packet⟩,
    fun position unicode hbehind => ⟨?_, fun hfits => ?_, fun text => ⟨?_, fun hfits => ?_, ?_⟩⟩⟩
  · exact Option.map_eq_none_iff.trans
      (packet.textStart?_setPosition_eq_none_iff position unicode)
  · exact refused_unpackString (textStart?_setPosition hfits packet) hbehind
  · exact Option.map_eq_none_iff.trans
      (packet.textStart?_setPosition_eq_none_iff position unicode)
  · exact refused_packString (textStart?_setPosition hfits packet) hbehind
  · rintro fault rfl hfault
    have hpacked : (packet.setPosition position).packLatin text =
        (.error fault, packet.setPosition position) := by
      rw [packLatin, hfault]
    exact congrArg some hpacked

/-- The offset of this word is more than a machine word can hold. -/
def strayWord : WordAccess :=
  .setWord 0x8000000000000000 258

/-- The last index whose offset does not overflow is refused, and so are UTF-16 text in front of the
last position and single-byte text behind the buffer.  At the last position there is no result. -/
theorem confined_unless_overflow_strayWord :
    let packet := blank minimumCapacity (Nat.le_refl _)
    packet.capacity < positionSpan ∧ strayWord.run packet = none ∧
      (WordAccess.setWord 0x7FFFFFFFFFFFFFED 258).Confined packet ∧
      (packet.setPosition 0xFFFFFFFFFFFFFFFF).packString "" true = none ∧
      (∃ attempt, (packet.setPosition 0xFFFFFFFFFFFFFFFE).unpackString true = some attempt ∧
        (packet.setPosition 0xFFFFFFFFFFFFFFFE).Refused attempt) ∧
      ∃ attempt, (packet.setPosition 600).packString (String.ofList ['ÿ']) false = some attempt ∧
        (packet.setPosition 600).Refused attempt := by
  intro packet
  have hcapacity : packet.capacity < positionSpan := by decide +kernel
  have hlast : packet.capacity < exactStart (0xFFFFFFFFFFFFFFFF : UInt64).toNat true := by
    decide +kernel
  have hnext : packet.capacity < exactStart (0xFFFFFFFFFFFFFFFE : UInt64).toNat true := by
    decide +kernel
  have hbehind : packet.capacity < exactStart (600 : UInt64).toNat false := by decide +kernel
  have hsmall : ∀ char ∈ (String.ofList ['ÿ']).toList, char.toNat ≤ 0xFF := by
    intro char hchar
    rw [String.toList_ofList] at hchar
    obtain rfl := List.mem_singleton.mp hchar
    decide
  obtain ⟨hwords, htexts⟩ := confined_unless_overflow packet hcapacity
  refine ⟨hcapacity, (hwords strayWord).2.mpr (by decide +kernel),
    (hwords _).1.mpr (by decide +kernel), ((htexts _ true hlast).2.2 "").1.mpr (by decide +kernel),
    (htexts _ true hnext).2.1 (by decide +kernel), ?_⟩
  exact ((htexts 600 false hbehind).2.2 (String.ofList ['ÿ'])).2.1 (by decide +kernel) fun _ =>
    ⟨_, Latin.encode_of_small hsmall⟩

theorem strayWord_has_no_result :
    ¬ ∀ (packet : Packet) (access : WordAccess), packet.capacity < positionSpan →
      access.Confined packet := by
  intro hconfined
  have hstray := hconfined (blank minimumCapacity (Nat.le_refl _)) strayWord (by decide +kernel)
  obtain ⟨attempt, hrun, -⟩ := hstray.refused (by decide +kernel)
  rw [(WordAccess.run_eq_none_iff _ _).mpr (by decide +kernel)] at hrun
  cases hrun

end SmbExchange.Packet

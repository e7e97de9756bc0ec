import SmbExchange.Proofs.Bytes.Changes
import SmbExchange.Signing

/-!
# Signing and checking

A signature does not depend on what stands in the signature field, so it can be
written there after it was computed.  The message that results is verified at
the number that it was signed with, by anyone with the same keyed hash.

It depends on everything else.  What is authenticated is cut into two parts of
fixed length and a rest, so the number and every byte outside the field can be
read back from it: no two messages that differ elsewhere, and no two numbers,
are authenticated alike.
-/

namespace SmbExchange

namespace Signature

/-- The messages are equally long and differ in the signature field at most. -/
def SameOutside (left right : Bytes) : Prop :=
  left.length = right.length ∧
    ∀ index, index < fieldStart ∨ fieldEnd ≤ index → left[index]? = right[index]?

section SameOutside

variable {left right : Bytes}

theorem sameOutside_iff_changedWithin :
    SameOutside left right ↔ right.ChangedWithin left fieldStart fieldEnd :=
  ⟨fun ⟨hlength, hbytes⟩ => ⟨hlength, hbytes⟩,
    fun hchanged => ⟨hchanged.length_eq, hchanged.getElem?_eq⟩⟩

theorem sameOutside_patch (message field : Bytes) (hfield : field.length = 8) :
    SameOutside (message.patch fieldStart field) message :=
  sameOutside_iff_changedWithin.mpr <|
    Bytes.changedWithin_patch (Nat.le_refl _) (Nat.le_of_eq (by rw [hfield]; rfl))

/-- The field is all that they differ in, so it can be made the same. -/
theorem patch_eq_of_sameOutside {field : Bytes} (hsame : SameOutside left right)
    (hfield : field.length = 8) :
    left.patch fieldStart field = right.patch fieldStart field := by
  obtain ⟨hlength, hbytes⟩ := hsame
  apply List.ext_getElem?
  intro index
  rw [Bytes.getElem?_patch, Bytes.getElem?_patch, hlength, hfield]
  by_cases hinside : fieldStart ≤ index ∧ index < fieldStart + 8 ∧ index < right.length
  · rw [if_pos hinside, if_pos hinside]
  · rw [if_neg hinside, if_neg hinside]
    by_cases hshort : index < right.length
    · apply hbytes
      simp only [fieldStart, fieldEnd] at hinside ⊢
      omega
    · rw [List.getElem?_eq_none (by omega), List.getElem?_eq_none (by omega)]

/-- What stands before the signature field and behind it is all that counts. -/
theorem sameOutside_iff (hleft : fieldEnd ≤ left.length) (hright : fieldEnd ≤ right.length) :
    SameOutside left right ↔
      left.take fieldStart = right.take fieldStart ∧
        left.drop fieldEnd = right.drop fieldEnd := by
  constructor
  · intro hsame
    have hchanged := sameOutside_iff_changedWithin.mp hsame
    exact ⟨hchanged.take_eq (Nat.le_refl _), hchanged.drop_eq (Nat.le_refl _)⟩
  · rintro ⟨hbefore, hbehind⟩
    constructor
    · have hlengths := congrArg List.length hbehind
      rw [List.length_drop, List.length_drop] at hlengths
      omega
    · rintro index (hindex | hindex)
      · have hbyte := congrArg (·[index]?) hbefore
        simpa only [List.getElem?_take_of_lt hindex] using hbyte
      · have hbyte := congrArg (·[index - fieldEnd]?) hbehind
        simpa only [List.getElem?_drop, Nat.add_sub_cancel' hindex] using hbyte

/-- What is authenticated determines the number and every byte outside the signature field, and
these determine it. -/
theorem input_eq_iff (hleft : fieldEnd ≤ left.length) (hright : fieldEnd ≤ right.length)
    (sequence number : UInt32) :
    input left sequence = input right number ↔
      sequence = number ∧ SameOutside left right := by
  have hstart : fieldStart ≤ fieldEnd := by decide
  have hheads : (left.take fieldStart).length = (right.take fieldStart).length := by
    rw [List.length_take, List.length_take]
    omega
  rw [sameOutside_iff hleft hright, input, input]
  constructor
  · intro hsame
    -- Both parts in front of the rest have fixed lengths, so they are cut off one by one.
    obtain ⟨hbefore, hmiddle⟩ := List.append_inj hsame hheads
    obtain ⟨hnumber, hbehind⟩ := List.append_inj hmiddle (by simp)
    exact ⟨LittleEndian.encode_toNat_inj hnumber, hbefore, hbehind⟩
  · rintro ⟨rfl, hbefore, hbehind⟩
    rw [hbefore, hbehind]

end SameOutside

/-- A message carries a signature if it reaches to the end of the field. -/
theorem embedded?_eq_some_iff {message : Bytes} {signature : Signature} :
    embedded? message = some signature ↔
      fieldEnd ≤ message.length ∧ message.slice fieldStart 8 = signature.val := by
  have hlength : (message.slice fieldStart 8).length = 8 ↔ fieldEnd ≤ message.length := by
    rw [Bytes.length_slice, fieldStart, fieldEnd]
    omega
  rw [embedded?]
  by_cases hlong : fieldEnd ≤ message.length
  · simp only [dif_pos (hlength.mpr hlong), Option.some.injEq, Subtype.ext_iff, hlong, true_and]
  · simp only [dif_neg (mt hlength.mp hlong), hlong, false_and, reduceCtorEq]

/-- A signature that is written into a message is the one that the message carries. -/
theorem embedded?_patch {message : Bytes} (signature : Signature)
    (hlong : fieldEnd ≤ message.length) :
    embedded? (message.patch fieldStart signature.val) = some signature := by
  have hslice := @Bytes.slice_patch_self message signature.val fieldStart
  rw [signature.property] at hslice
  rw [embedded?_eq_some_iff, Bytes.length_patch]
  exact ⟨hlong, hslice hlong⟩

/-- What is read of a message that a signature is written into: the signature, and with the old
contents of the field put back the message as it was. -/
theorem slice_patch_field {message : Bytes} (signature : Signature)
    (hlong : fieldEnd ≤ message.length) :
    (message.patch fieldStart signature.val).slice fieldStart 8 = signature.val ∧
      (message.patch fieldStart signature.val).patch fieldStart (message.slice fieldStart 8) =
        message := by
  have hfield : (message.slice fieldStart 8).length = 8 := by
    rw [fieldEnd] at hlong
    rw [Bytes.length_slice, fieldStart]
    omega
  constructor
  · exact (embedded?_eq_some_iff.mp (embedded?_patch signature hlong)).2
  · rw [patch_eq_of_sameOutside (sameOutside_patch message _ signature.property) hfield,
      Bytes.patch_slice_self]

end Signature

namespace Signer

section Mac

variable (mac : Bytes → Tag)

/-- Messages that agree outside the signature field have the same signature. -/
theorem sign_ofMac_congr {left right : Bytes} (hleft : Signature.fieldEnd ≤ left.length)
    (hsame : Signature.SameOutside left right) (sequence : UInt32) :
    (ofMac mac).sign left sequence = (ofMac mac).sign right sequence := by
  have hinput : Signature.input left sequence = Signature.input right sequence :=
    (Signature.input_eq_iff hleft (hsame.1 ▸ hleft) sequence sequence).mpr ⟨rfl, hsame⟩
  exact congrArg (fun input => truncate (mac input)) hinput

theorem verify_ofMac_iff (message : Bytes) (sequence : UInt32) :
    (ofMac mac).verify message sequence = true ↔
      Signature.embedded? message = some ((ofMac mac).sign message sequence) := by
  simp only [ofMac]
  cases Signature.embedded? message with
  | none => simp
  | some found => rw [beq_iff_eq, Option.some.injEq]

/-- A message is verified once its signature is written into it. -/
theorem verify_ofMac_patch {message : Bytes} (sequence : UInt32)
    (hlong : Signature.fieldEnd ≤ message.length) :
    (ofMac mac).verify
      (message.patch Signature.fieldStart ((ofMac mac).sign message sequence).val) sequence =
        true := by
  have hsame := Signature.sameOutside_patch message ((ofMac mac).sign message sequence).val
    ((ofMac mac).sign message sequence).property
  rw [verify_ofMac_iff, Signature.embedded?_patch _ hlong, Option.some.injEq]
  exact (sign_ofMac_congr mac (by rwa [hsame.1]) hsame sequence).symm

end Mac

/-- A signature covers a whole message and its number.  A message is verified exactly if it has the
field and the field holds the start of the tag; the signature does not depend on the field and is
verified once it stands there; and what goes into the tag is different for messages that differ
outside the field and for different numbers.  Nothing is asked of the hash. -/
theorem verify_hmac_iff_and_input_eq_iff (key message : Bytes) (sequence : UInt32) :
    ((hmac key).verify message sequence = true ↔
      22 ≤ message.length ∧
        message.slice 14 8 =
          (Hmac.tag key (message.take 14 ++
            (LittleEndian.encode 8 sequence.toNat ++ message.drop 22))).take 8) ∧
      (22 ≤ message.length →
        (∀ other, Signature.SameOutside message other →
          (hmac key).sign other sequence = (hmac key).sign message sequence) ∧
        (hmac key).verify (message.patch 14 ((hmac key).sign message sequence).val) sequence =
          true ∧
        ∀ (other : Bytes) (number : UInt32), 22 ≤ other.length →
          (Signature.input message sequence = Signature.input other number ↔
            sequence = number ∧ Signature.SameOutside message other)) := by
  refine ⟨?_, fun hlong => ⟨?_, ?_, ?_⟩⟩
  · rw [hmac, verify_ofMac_iff]
    exact Signature.embedded?_eq_some_iff
  · intro other hsame
    exact (sign_ofMac_congr _ hlong hsame sequence).symm
  · exact verify_ofMac_patch _ sequence hlong
  · intro other number hother
    exact Signature.input_eq_iff hlong hother sequence number

/-- A message that was signed before is signed again with the last number.  Neither the next
number nor another last byte gives the same input, and cut off inside the field the message is not
verified. -/
theorem verify_hmac_iff_and_input_eq_iff_signed_before :
    let key : Bytes := [0x4B, 0x65, 0x79]
    let message : Bytes := List.replicate 14 1 ++ List.replicate 8 0xEE ++ [2, 3]
    let other : Bytes := List.replicate 22 1 ++ [2, 4]
    (hmac key).verify (message.patch 14 ((hmac key).sign message 0xFFFFFFFF).val) 0xFFFFFFFF =
        true ∧
      Signature.input message 0xFFFFFFFF ≠ Signature.input message 0 ∧
      Signature.input message 0xFFFFFFFF ≠ Signature.input other 0xFFFFFFFF ∧
      (hmac key).verify (message.take 21) 0xFFFFFFFF = false := by
  intro key message other
  obtain ⟨-, hlong⟩ := verify_hmac_iff_and_input_eq_iff key message 0xFFFFFFFF
  obtain ⟨hshort, -⟩ := verify_hmac_iff_and_input_eq_iff key (message.take 21) 0xFFFFFFFF
  obtain ⟨-, hverified, hinjective⟩ := hlong (by decide)
  refine ⟨hverified, ?_, ?_, ?_⟩
  · intro hsame
    exact absurd ((hinjective message 0 (by decide)).mp hsame).1 (by decide)
  · intro hsame
    obtain ⟨-, -, hbytes⟩ := (hinjective other 0xFFFFFFFF (by decide)).mp hsame
    exact absurd (hbytes 23 (by decide)) (by decide)
  · rw [← Bool.not_eq_true]
    exact fun hverified => absurd (hshort.mp hverified).1 (by decide)

end Signer

end SmbExchange

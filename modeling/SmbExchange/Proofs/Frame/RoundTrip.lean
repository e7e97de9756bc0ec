import SmbExchange.Proofs.Frame.Chunks

/-!
# Messages written and read back

Messages are framed one behind the other, with keep-alives anywhere between
them.  What is written in this way is decoded to the messages alone, in order,
and nothing is left.  Only a message over the limit is not written.
-/

namespace SmbExchange.Framing

open SmbExchange.Frame (Whole)

/-- What is put on a stream: a message to be framed, or a keep-alive as it stands. -/
inductive Entry where
  | message (payload : Bytes)
  | keepAlive (frame : Whole) (hkind : frame.kind = Frame.keepAliveKind)

def payloads : List Entry → List Bytes
  | [] => []
  | .message payload :: entries => payload :: payloads entries
  | .keepAlive _ _ :: entries => payloads entries

def pauses : List Entry → Nat
  | [] => 0
  | .message _ :: entries => pauses entries
  | .keepAlive _ _ :: entries => 1 + pauses entries

def put (framing : Framing) (output : Bytes) : Entry → Except Fault Unit × Bytes
  | .message payload => framing.encodeOnto output payload
  | .keepAlive frame _ => (.ok (), output ++ frame.bytes)

/-- Puts entries on a stream until one is refused. -/
def putAll (framing : Framing) (output : Bytes) : List Entry → Except Fault Unit × Bytes
  | [] => (.ok (), output)
  | entry :: entries =>
    match framing.put output entry with
    | (.ok (), after) => putAll framing after entries
    | (.error fault, after) => (.error fault, after)

variable {framing : Framing} {output payload : Bytes}

theorem encodeOnto_of_le (output : Bytes) (hlimit : payload.length ≤ framing.limit) :
    framing.encodeOnto output payload =
      (.ok (), output ++ (Whole.ofPayload payload (Nat.le_trans hlimit framing.limit_le)).bytes) := by
  rw [encodeOnto, encode, if_neg (Nat.not_lt.mpr hlimit), Whole.bytes_ofPayload]

theorem encodeOnto_of_lt (output : Bytes) (hlimit : framing.limit < payload.length) :
    framing.encodeOnto output payload = (.error (.oversizedPacket payload.length), output) := by
  rw [encodeOnto, encode, if_pos hlimit]

/-- A message is refused exactly when it is over the limit, and then nothing is written. -/
theorem encodeOnto_fails_iff (framing : Framing) (output payload : Bytes) :
    ((∃ fault, (framing.encodeOnto output payload).1 = .error fault) ↔
        framing.limit < payload.length) ∧
      ∀ fault, (framing.encodeOnto output payload).1 = .error fault →
        (framing.encodeOnto output payload).2 = output := by
  by_cases hlimit : framing.limit < payload.length
  · rw [encodeOnto_of_lt output hlimit]
    exact ⟨⟨fun _ => hlimit, fun _ => ⟨_, rfl⟩⟩, fun _ _ => rfl⟩
  · rw [encodeOnto_of_le output (Nat.not_lt.mp hlimit)]
    simp [hlimit]

/-- Entries that are not refused are put on a stream before the entries that follow. -/
theorem putAll_append {earlier later : List Entry} {after : Bytes}
    (hput : framing.putAll output earlier = (.ok (), after)) :
    framing.putAll output (earlier ++ later) = framing.putAll after later := by
  induction earlier generalizing output with
  | nil =>
    rw [putAll, Prod.mk.injEq] at hput
    rw [List.nil_append, hput.2]
  | cons entry earlier ih =>
    rw [putAll] at hput
    rw [List.cons_append, putAll]
    generalize framing.put output entry = first at hput ⊢
    obtain ⟨result, middle⟩ := first
    cases result with
    | error fault => simp at hput
    | ok _ => exact ih hput

theorem length_le_of_putAll {entries : List Entry} {after : Bytes}
    (hput : framing.putAll output entries = (.ok (), after)) :
    ∀ payload ∈ payloads entries, payload.length ≤ framing.limit := by
  induction entries generalizing output with
  | nil => exact fun payload hpayload => absurd hpayload List.not_mem_nil
  | cons entry entries ih =>
    cases entry with
    | keepAlive frame hkind => exact ih hput
    | message first =>
      rw [putAll, put] at hput
      by_cases hlimit : framing.limit < first.length
      · rw [encodeOnto_of_lt output hlimit] at hput
        simp at hput
      · rw [encodeOnto_of_le output (Nat.not_lt.mp hlimit)] at hput
        rintro payload (_ | ⟨_, hpayload⟩)
        · exact Nat.not_lt.mp hlimit
        · exact ih hput payload hpayload

/-- What is put on a stream can be taken off it again. -/
theorem takes_putAll (framing : Framing) (entries : List Entry)
    (hlimit : ∀ payload ∈ payloads entries, payload.length ≤ framing.limit) (output : Bytes) :
    ∃ wire, framing.putAll output entries = (.ok (), output ++ wire) ∧
      framing.Takes wire (pauses entries) (payloads entries) [] := by
  induction entries generalizing output with
  | nil => exact ⟨[], by rw [putAll, List.append_nil], .refl framing []⟩
  | cons entry entries ih =>
    cases entry with
    | message payload =>
      have hfirst := hlimit payload (List.mem_cons_self ..)
      let frame := Whole.ofPayload payload (Nat.le_trans hfirst framing.limit_le)
      obtain ⟨wire, hwire, htakes⟩ :=
        ih (fun other hother => hlimit other (List.mem_cons_of_mem payload hother))
          (output ++ frame.bytes)
      refine ⟨frame.bytes ++ wire, ?_, ?_⟩
      · rw [putAll, put, encodeOnto_of_le output hfirst]
        simp only
        rw [hwire, List.append_assoc]
      · have hmessage : framing.Takes (frame.bytes ++ wire) 0 [frame.payload] wire :=
          .message rfl hfirst wire
        have hboth := hmessage.trans htakes
        rw [Nat.zero_add] at hboth
        exact hboth
    | keepAlive frame hkind =>
      obtain ⟨wire, hwire, htakes⟩ := ih hlimit (output ++ frame.bytes)
      refine ⟨frame.bytes ++ wire, ?_, ?_⟩
      · rw [putAll, put]
        simp only
        rw [hwire, List.append_assoc]
      · exact (Takes.keepAlive hkind wire).trans htakes

/-- With any limit, lowered to what a header can describe, messages up to the limit and any
keep-alives between them are written and read back: the messages come out in order, without a
fault, and nothing is left.  A message fails to be written exactly when it is over the limit,
and then the output is what it was. -/
theorem decodeAll_putAll (limit : Nat) (entries : List Entry)
    (hlimit : ∀ payload ∈ payloads entries, payload.length ≤ min limit Frame.maximumLength) :
    (∃ wire, (ofLimit limit).putAll [] entries = (.ok (), wire) ∧
        (ofLimit limit).decodeAll wire = ⟨pauses entries, payloads entries, none, []⟩) ∧
      ∀ output payload,
        ((∃ fault, ((ofLimit limit).encodeOnto output payload).1 = .error fault) ↔
            min limit Frame.maximumLength < payload.length) ∧
          ∀ fault, ((ofLimit limit).encodeOnto output payload).1 = .error fault →
            ((ofLimit limit).encodeOnto output payload).2 = output := by
  constructor
  · obtain ⟨wire, hwire, htakes⟩ := (ofLimit limit).takes_putAll entries hlimit []
    refine ⟨wire, hwire, ?_⟩
    rw [decodeAll_of_takes htakes, decodeAll_nil, Yield.behind, Nat.add_zero, List.append_nil]
  · intro output payload
    exact encodeOnto_fails_iff (ofLimit limit) output payload

/-- A limit that no header can describe is lowered, and the longest message passes.  The
keep-alives have odd flags and carry bytes, and one of the messages looks like a keep-alive. -/
theorem decodeAll_putAll_longest :
    let longest : Bytes := List.replicate 0x1FFFF 7
    let entries : List Entry :=
      [.keepAlive ⟨0x85, 0xFE, 0, 1, [1], rfl⟩ rfl, .message longest, .message [],
        .keepAlive ⟨0x85, 0x80, 0, 2, [3, 4], rfl⟩ rfl, .message [0x85, 0, 0, 0],
        .keepAlive ⟨0x85, 0, 0, 0, [], rfl⟩ rfl]
    ∃ wire, (ofLimit 0x40000).putAll [] entries = (.ok (), wire) ∧
      (ofLimit 0x40000).decodeAll wire = ⟨3, [longest, [], [0x85, 0, 0, 0]], none, []⟩ := by
  intro longest entries
  have hlimit : ∀ payload ∈ payloads entries,
      payload.length ≤ min 0x40000 Frame.maximumLength := by
    intro payload hpayload
    simp only [entries, payloads, List.mem_cons, List.not_mem_nil, or_false] at hpayload
    rcases hpayload with rfl | rfl | rfl
    · rw [List.length_replicate]
      decide
    · decide
    · decide
  exact (decodeAll_putAll 0x40000 entries hlimit).1

end SmbExchange.Framing

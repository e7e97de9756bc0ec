import SmbExchange.Config.Document
import SmbExchange.Proofs.Config.Validated
import SmbExchange.Proofs.Toml.Documents

/-!
# Configurations that are saved and reloaded

What is written for a configuration is read back as the same configuration, but
for its durations, of which the whole milliseconds are written as a 64-bit word.
Validation looks at the exact durations, and it bounds only one of them from
above.  So a valid configuration may be too long to be written, it may come back
shorter than it was, and what is less than a millisecond comes back as nothing,
which is not valid.
-/

namespace SmbExchange

namespace Duration

theorem isBounded_milliseconds (duration : Duration) :
    duration.milliseconds * 1_000_000 < UInt64.size * 1_000_000_000 := by
  have hbound := duration.isBounded
  rw [milliseconds]
  omega

/-- The duration without what is less than a millisecond. -/
def rounded (duration : Duration) : Duration :=
  ⟨duration.milliseconds * 1_000_000, duration.isBounded_milliseconds⟩

/-- The duration that is read where this one was written. -/
def reread (duration : Duration) : Duration :=
  .ofMilliseconds (UInt64.ofNat duration.milliseconds)

@[simp]
theorem milliseconds_rounded (duration : Duration) :
    duration.rounded.milliseconds = duration.milliseconds := by
  simp only [rounded, milliseconds]
  omega

@[simp]
theorem seconds_rounded (duration : Duration) : duration.rounded.seconds = duration.seconds := by
  simp only [rounded, seconds, milliseconds]
  omega

@[simp]
theorem milliseconds_reread (duration : Duration) :
    duration.reread.milliseconds = duration.milliseconds % UInt64.size := by
  rw [reread, milliseconds_ofMilliseconds, UInt64.toNat_ofNat']

/-- A duration is read back in whole milliseconds if their number is a 64-bit word. -/
theorem reread_eq_rounded_iff (duration : Duration) :
    duration.reread = duration.rounded ↔ duration.milliseconds < UInt64.size := by
  constructor
  · intro hsame
    have hmilliseconds := congrArg milliseconds hsame
    rw [milliseconds_reread, milliseconds_rounded] at hmilliseconds
    rw [← hmilliseconds]
    exact Nat.mod_lt _ (by decide)
  · intro hbound
    rw [reread, ofMilliseconds, rounded, mk.injEq, UInt64.toNat_ofNat_of_lt' hbound]

end Duration

namespace Config

variable {codec : Toml.Codec} {storage : Storage} {config : Config}

def Client.mapDurations (change : Duration → Duration) (client : Client) : Client :=
  { client with
    connectionTimeout := change client.connectionTimeout
    responseTimeout := change client.responseTimeout
    pollTimeout := change client.pollTimeout }

def mapDurations (change : Duration → Duration) (config : Config) : Config :=
  { config with client := config.client.mapDurations change }

/-- The configuration with its durations in whole milliseconds. -/
def rounded (config : Config) : Config :=
  config.mapDurations Duration.rounded

/-- The configuration that is read where this one was written. -/
def reread (config : Config) : Config :=
  config.mapDurations Duration.reread

/-! ## Reading -/

section Reading

open Toml (Scalar)

@[simp]
theorem readText_text (value : String) : readText (Scalar.text value).toValue = .ok value :=
  rfl

@[simp]
theorem readTruth_truth (value : Bool) : readTruth (Scalar.truth value).toValue = .ok value :=
  rfl

@[simp]
theorem readWord_number (value : UInt64) :
    readWord (Scalar.number value.toNat).toValue = .ok value := by
  change (if value.toNat < UInt64.size then _ else _ : Except Misfit Nat).map _ = _
  rw [if_pos value.toNat_lt_size]
  exact congrArg Except.ok UInt64.ofNat_toNat

@[simp]
theorem readShortWord_number (value : UInt16) :
    readShortWord (Scalar.number value.toNat).toValue = .ok value := by
  change (if value.toNat < UInt16.size then _ else _ : Except Misfit Nat).map _ = _
  rw [if_pos value.toNat_lt_size]
  exact congrArg Except.ok UInt16.ofNat_toNat

@[simp]
theorem readDuration_writtenDuration (duration : Duration) :
    readDuration (writtenDuration duration).toValue = .ok duration.reread := by
  rw [readDuration, writtenDuration, readWord_number]
  rfl

@[simp]
theorem readLevel_lowerName (level : Level) :
    readLevel (Scalar.text level.lowerName).toValue = .ok level := by
  simp only [readLevel, readText_text, bind, Except.bind, Level.ofText?_lowerName]
  rfl

theorem Client.ofValue_toSection (client : Client) :
    Client.ofValue client.toSection.toEntry.2 = .ok (client.mapDurations Duration.reread) := by
  simp [Client.ofValue, Client.toSection, Toml.Section.toEntry, Client.checks, Fields.checked,
    Fields.ofValue, checkAll, check, Fields.get, Fields.get?, List.lookup_cons, Except.map, bind,
    Except.bind, pure, Except.pure, Client.mapDurations]

theorem Signing.ofValue_toSection (signing : Signing) :
    Signing.ofValue signing.toSection.toEntry.2 = .ok signing :=
  rfl

theorem Transport.ofValue_toSection (transport : Transport) :
    Transport.ofValue transport.toSection.toEntry.2 = .ok transport := by
  simp [Transport.ofValue, Transport.toSection, Toml.Section.toEntry, Transport.checks,
    Fields.checked, Fields.ofValue, checkAll, check, Fields.get, List.lookup_cons, Except.map, bind,
    Except.bind, pure, Except.pure]

/-- A path that is not there is not written, and not missed. -/
theorem Logging.ofValue_toSection (logging : Logging) :
    Logging.ofValue logging.toSection.toEntry.2 = .ok logging := by
  rcases logging with ⟨application, level, toConsole, toFile, _ | path, asJson⟩
  all_goals
    simp [Logging.ofValue, Logging.toSection, Toml.Section.toEntry, Logging.checks,
      Fields.checked, Fields.ofValue, checkAll, check, Fields.get, Fields.get?, List.lookup_cons,
      Except.map, bind, Except.bind, pure, Except.pure]

theorem ofEntries_of_sections {client signing transport logging : Toml.Value} {config : Config}
    (hclient : Client.ofValue client = .ok config.client)
    (hsigning : Signing.ofValue signing = .ok config.signing)
    (htransport : Transport.ofValue transport = .ok config.transport)
    (hlogging : Logging.ofValue logging = .ok config.logging) :
    ofEntries [("client", client), ("signing", signing), ("transport", transport),
      ("logging", logging)] = .ok config := by
  simp [ofEntries, checks, Fields.checked, Fields.ofValue, checkAll, check, Fields.get?,
    List.lookup_cons, Except.map, bind, Except.bind, pure, Except.pure, hclient, hsigning,
    htransport, hlogging]

/-- Every section is read from the table that is written for it. -/
theorem ofEntries_toSections (config : Config) :
    ofEntries (config.toSections.map Toml.Section.toEntry) = .ok config.reread :=
  ofEntries_of_sections (config.client.ofValue_toSection) (config.signing.ofValue_toSection)
    (config.transport.ofValue_toSection) (config.logging.ofValue_toSection)

end Reading

/-! ## Writing -/

theorem isDistinct_toSections (config : Config) :
    ∀ part ∈ config.toSections, part.IsDistinct := by
  intro part hpart
  simp only [toSections, List.mem_cons, List.not_mem_nil, or_false] at hpart
  rcases hpart with rfl | rfl | rfl | rfl
  · simp [Client.toSection, Toml.Section.IsDistinct]
  · simp [Signing.toSection, Toml.Section.IsDistinct]
  · simp [Transport.toSection, Toml.Section.IsDistinct]
  · cases hpath : config.logging.path <;>
      simp [Logging.toSection, Toml.Section.IsDistinct, hpath]

/-- What was written for a configuration is read back, but for the durations. -/
theorem ofTextBy_of_toTextBy? (hlawful : codec.Lawful) {text : String}
    (htext : config.toTextBy? codec = some text) :
    ofTextBy codec text = .ok config.reread := by
  have hnames : (config.toSections.map Toml.Section.name).Nodup := by
    change ["client", "signing", "transport", "logging"].Nodup
    decide
  rw [ofTextBy, hlawful.read?_of_write? htext hnames config.isDistinct_toSections]
  exact config.ofEntries_toSections

/-- A duration is short enough to be written. -/
def IsWritable (duration : Duration) : Prop :=
  duration.milliseconds % UInt64.size < Toml.integerBound

@[simp]
theorem isSmall_writtenDuration (duration : Duration) :
    (writtenDuration duration).IsSmall ↔ IsWritable duration := by
  rw [writtenDuration, Toml.Scalar.isSmall_number, UInt64.toNat_ofNat']
  rfl

theorem isSmall_logging (logging : Logging) :
    ∀ entry ∈ logging.toSection.entries, entry.2.IsSmall := by
  cases hpath : logging.path <;> simp [Logging.toSection, hpath, -Prod.forall]

theorem isSome_toTextBy?_iff (hlawful : codec.Lawful) (config : Config) :
    (config.toTextBy? codec).isSome = true ↔
      IsWritable config.client.connectionTimeout ∧ IsWritable config.client.responseTimeout ∧
        IsWritable config.client.pollTimeout ∧
        config.client.bufferSize.toNat < Toml.integerBound ∧
        config.frameLimit < Toml.integerBound := by
  have hprocess : config.client.processId.toNat < Toml.integerBound :=
    Nat.lt_trans config.client.processId.toNat_lt_size (by decide)
  have hlogging := isSmall_logging config.logging
  rw [toTextBy?, hlawful.isSome_write?_iff]
  simp only [toSections, Client.toSection, Signing.toSection, Transport.toSection,
    List.forall_mem_cons, List.not_mem_nil, false_imp_iff, implies_true, and_true, true_and,
    Toml.Scalar.isSmall_text, Toml.Scalar.isSmall_number, Toml.Scalar.isSmall_truth,
    isSmall_writtenDuration, hprocess, frameLimit, and_assoc]
  tauto

/-! ## Validation -/

/-- What validation finds out about the durations of a client. -/
structure Client.HasValidDurations (client : Client) : Prop where
  shortest_le_connection : shortestTimeout ≤ client.connectionTimeout.milliseconds
  connection_le_longest : client.connectionTimeout.seconds ≤ longestTimeout
  shortest_le_response : shortestTimeout ≤ client.responseTimeout.milliseconds
  poll_pos : 0 < client.pollTimeout.nanoseconds

theorem connectionProblems_eq_nil_iff (timeout : Duration) :
    connectionProblems timeout = [] ↔
      shortestTimeout ≤ timeout.milliseconds ∧ timeout.seconds ≤ longestTimeout := by
  unfold connectionProblems
  split
  · simp only [List.cons_ne_nil, false_iff]
    omega
  · rw [problemIf_eq_nil_iff, decide_eq_false_iff_not]
    omega

theorem Client.problems_eq_nil_iff (client : Client) :
    client.problems = [] ↔ addressProblems client.address = [] ∧ client.HasValidDurations ∧
      Packet.minimumCapacity ≤ client.bufferSize.toNat := by
  simp only [problems, List.append_eq_nil_iff, problemIf_eq_nil_iff, decide_eq_false_iff_not,
    Nat.not_lt, connectionProblems_eq_nil_iff, and_assoc]
  constructor
  · rintro ⟨haddress, hshort, hlong, hresponse, hpoll, hsize⟩
    exact ⟨haddress, ⟨hshort, hlong, hresponse, Nat.pos_of_ne_zero hpoll⟩, hsize⟩
  · rintro ⟨haddress, ⟨hshort, hlong, hresponse, hpoll⟩, hsize⟩
    exact ⟨haddress, hshort, hlong, hresponse, Nat.ne_of_gt hpoll, hsize⟩

section Valid

variable (hvalid : config.validate storage = some (.ok ()))
include hvalid

theorem hasValidDurations_of_validate : config.client.HasValidDurations := by
  have hnone := (validate_eq_ok_iff storage config).mp hvalid
  obtain ⟨hclient, -⟩ := (problems_eq_nil_iff storage config).mp hnone
  exact ((Client.problems_eq_nil_iff config.client).mp hclient).2.1

/-- A change of its durations leaves a configuration valid if it leaves them valid. -/
theorem validate_mapDurations_iff (change : Duration → Duration) :
    (config.mapDurations change).validate storage = some (.ok ()) ↔
      (config.client.mapDurations change).HasValidDurations := by
  obtain ⟨hclient, htransport, hlogging, hsize⟩ :=
    (problems_eq_nil_iff storage config).mp ((validate_eq_ok_iff storage config).mp hvalid)
  obtain ⟨haddress, -, hminimum⟩ := (Client.problems_eq_nil_iff config.client).mp hclient
  rw [validate_eq_ok_iff, problems_eq_nil_iff]
  constructor
  · rintro ⟨hchanged, -, -, -⟩
    exact ((Client.problems_eq_nil_iff _).mp hchanged).2.1
  · intro hdurations
    exact ⟨(Client.problems_eq_nil_iff _).mpr ⟨haddress, hdurations, hminimum⟩, htransport,
      hlogging, hsize⟩

theorem validate_rounded_iff :
    config.rounded.validate storage = some (.ok ()) ↔
      0 < config.client.pollTimeout.milliseconds := by
  have hdurations := hasValidDurations_of_validate hvalid
  rw [rounded, validate_mapDurations_iff hvalid]
  constructor
  · intro hrounded
    have hpoll : 0 < config.client.pollTimeout.milliseconds * 1_000_000 := hrounded.poll_pos
    omega
  · intro hpoll
    refine ⟨?_, ?_, ?_, Nat.mul_pos hpoll (by decide)⟩
    · simpa [Client.mapDurations] using hdurations.shortest_le_connection
    · simpa [Client.mapDurations] using hdurations.connection_le_longest
    · simpa [Client.mapDurations] using hdurations.shortest_le_response

/-- The time that connecting may take is bounded, and so it is written as it is. -/
theorem connection_lt_of_validate :
    config.client.connectionTimeout.milliseconds < Toml.integerBound := by
  have hlongest := (hasValidDurations_of_validate hvalid).connection_le_longest
  have hbound : (longestTimeout + 1) * 1000 ≤ Toml.integerBound := by decide
  rw [Duration.seconds] at hlongest
  rw [Duration.milliseconds]
  omega

/-- A valid configuration can be written if the two durations that are not bounded are short
enough. -/
theorem isSome_toTextBy?_iff_of_validate (hlawful : codec.Lawful) :
    (config.toTextBy? codec).isSome = true ↔
      IsWritable config.client.responseTimeout ∧ IsWritable config.client.pollTimeout := by
  have hbounded := bounded_of_validate hvalid
  have hconnection : IsWritable config.client.connectionTimeout :=
    Nat.lt_of_le_of_lt (Nat.mod_le _ _) (connection_lt_of_validate hvalid)
  have hmaximum : Frame.maximumLength + Packet.headerRoom < Toml.integerBound := by decide
  have hlimit := hbounded.limit_le
  have hsize : config.client.bufferSize.toNat ≤ _ := hbounded.size_le
  rw [isSome_toTextBy?_iff hlawful]
  constructor
  · rintro ⟨-, hresponse, hpoll, -, -⟩
    exact ⟨hresponse, hpoll⟩
  · rintro ⟨hresponse, hpoll⟩
    exact ⟨hconnection, hresponse, hpoll, by omega, by omega⟩

end Valid

/-! ## Saving and reloading -/

/-- A configuration is written, read back with its durations in whole milliseconds, and then it is
still valid. -/
def Survives (codec : Toml.Codec) (storage : Storage) (config : Config) : Prop :=
  ∃ text, config.toTextBy? codec = some text ∧ ofTextBy codec text = .ok config.rounded ∧
    config.rounded.validate storage = some (.ok ())

theorem reread_eq_rounded_iff (config : Config) :
    config.reread = config.rounded ↔
      config.client.connectionTimeout.milliseconds < UInt64.size ∧
        config.client.responseTimeout.milliseconds < UInt64.size ∧
        config.client.pollTimeout.milliseconds < UInt64.size := by
  simp only [reread, rounded, mapDurations, Client.mapDurations, mk.injEq, Client.mk.injEq,
    Duration.reread_eq_rounded_iff, and_true, true_and]

/-- Saving and reloading keeps a valid configuration, in whole milliseconds, and keeps it valid,
unless a response or a poll is waited for so long that this cannot be written, or a poll for less
than a millisecond.  Whatever writes and reads the text makes no difference to this. -/
theorem survives_iff_of_validate (hlawful : codec.Lawful)
    (hvalid : config.validate storage = some (.ok ())) :
    config.Survives codec storage ↔
      config.client.responseTimeout.milliseconds < Toml.integerBound ∧
        config.client.pollTimeout.milliseconds < Toml.integerBound ∧
        0 < config.client.pollTimeout.milliseconds := by
  have hsome := isSome_toTextBy?_iff_of_validate hvalid hlawful
  constructor
  · rintro ⟨text, htext, hread, hrounded⟩
    obtain ⟨hresponse, hpoll⟩ := hsome.mp (by rw [htext]; rfl)
    have hsame : config.reread = config.rounded := by
      rw [ofTextBy_of_toTextBy? hlawful htext] at hread
      exact Except.ok.inj hread
    obtain ⟨-, hresponseSize, hpollSize⟩ := (reread_eq_rounded_iff config).mp hsame
    rw [IsWritable, Nat.mod_eq_of_lt hresponseSize] at hresponse
    rw [IsWritable, Nat.mod_eq_of_lt hpollSize] at hpoll
    exact ⟨hresponse, hpoll, (validate_rounded_iff hvalid).mp hrounded⟩
  · rintro ⟨hresponse, hpoll, hpos⟩
    have hbound : Toml.integerBound ≤ UInt64.size := by decide
    have hsame : config.reread = config.rounded :=
      (reread_eq_rounded_iff config).mpr
        ⟨Nat.lt_of_lt_of_le (connection_lt_of_validate hvalid) hbound,
          Nat.lt_of_lt_of_le hresponse hbound, Nat.lt_of_lt_of_le hpoll hbound⟩
    have hwritable : ∀ duration : Duration, duration.milliseconds < Toml.integerBound →
        IsWritable duration := fun duration => Nat.lt_of_le_of_lt (Nat.mod_le _ _)
    obtain ⟨text, htext⟩ :=
      Option.isSome_iff_exists.mp (hsome.mpr ⟨hwritable _ hresponse, hwritable _ hpoll⟩)
    exact ⟨text, htext, hsame ▸ ofTextBy_of_toTextBy? hlawful htext,
      (validate_rounded_iff hvalid).mpr hpos⟩

/-- A configuration with times between two milliseconds, and with a file. -/
def preciseTimes : Config :=
  { default with
    client :=
      { Client.default with
        connectionTimeout := .ofMicroseconds 2_500_001
        responseTimeout := .ofMicroseconds 100_999
        pollTimeout := .ofMicroseconds 1_500 }
    logging :=
      { Logging.default with toFile := true, path := some "logs/smb.log" } }

/-- The standard codec brings it back in whole milliseconds, the path included. -/
theorem preciseTimes_survives :
    let storage := Storage.ofDirectories ["logs"]
    Toml.Codec.standard.Lawful ∧ preciseTimes.validate storage = some (.ok ()) ∧
      preciseTimes.rounded.client.pollTimeout = .ofMicroseconds 1_000 ∧
      ∃ text, preciseTimes.toText? = some text ∧ ofText text = .ok preciseTimes.rounded ∧
        preciseTimes.rounded.validate storage = some (.ok ()) := by
  intro storage
  have hvalid : preciseTimes.validate storage = some (.ok ()) := by decide +kernel
  have hsurvives : preciseTimes.Survives .standard storage :=
    (survives_iff_of_validate Toml.Codec.lawful_standard hvalid).mpr (by decide)
  exact ⟨Toml.Codec.lawful_standard, hvalid, rfl, hsurvives⟩

/-- The default configuration, but for a poll of half a millisecond. -/
def hastyPoll : Config :=
  { default with client := { Client.default with pollTimeout := .ofMicroseconds 500 } }

/-- A poll of half a millisecond is valid, but is read back as one of no time at all. -/
theorem hastyPoll_does_not_survive :
    ¬ ∀ (storage : Storage) (config : Config),
      config.validate storage = some (.ok ()) → config.Survives .standard storage := by
  intro hall
  have hvalid : hastyPoll.validate (.ofDirectories []) = some (.ok ()) := by decide +kernel
  obtain ⟨text, -, -, hrounded⟩ := hall _ _ hvalid
  exact absurd ((validate_rounded_iff hvalid).mp hrounded) (by decide)

end Config

end SmbExchange

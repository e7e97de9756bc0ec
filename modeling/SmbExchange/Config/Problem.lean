import SmbExchange.Bytes.Alignment
import SmbExchange.Config.Basic
import SmbExchange.Storage.Files
import SmbExchange.Transport.Endpoint

/-!
# Problems of configurations

Each section is looked at for itself, and then the buffers against the frames.  All problems are
found, not only the first, and they are told in a fixed order.  A configuration without problems is
valid, see `validate_eq_ok_iff`.  One addition on the way is of machine words: where it overflows
there is no result, see `validate_eq_none_iff`.
-/

namespace SmbExchange.Config

inductive Problem where
  | addressEmpty
  | addressInvalid (address : String)
  | connectionTimeoutShort
  | connectionTimeoutLong
  | responseTimeoutShort
  | pollTimeoutZero
  | bufferSmall (size : UInt64)
  | frameSmall (size : UInt64)
  | frameLarge (size : UInt64)
  | applicationEmpty
  | applicationLong (length : Nat)
  | directoryMissing (path : String)
  | pathMissing
  | outputMissing
  | bufferExceedsFrame (size limit : UInt64)
  deriving DecidableEq, Repr

/-- The shortest time in which a server can be expected to answer, in milliseconds. -/
def shortestTimeout : Nat := 100

/-- The longest time that connecting may take, in seconds. -/
def longestTimeout : Nat := 300

/-- The longest name of an application, in bytes. -/
def longestApplication : Nat := 64

def Problem.message : Problem → String
  | addressEmpty => "Client address cannot be empty"
  | addressInvalid address =>
    "Invalid client address format: '" ++ address ++ "' (expected format: 'fileserver:445')"
  | connectionTimeoutShort => "Connection timeout too short (minimum: 100ms)"
  | connectionTimeoutLong => "Connection timeout too long (maximum: 300s)"
  | responseTimeoutShort => "Response timeout too short (minimum: 100ms)"
  | pollTimeoutZero => "Async poll timeout must be greater than 0"
  | bufferSmall size =>
    "Buffer size too small: " ++ toString size.toNat ++ " (minimum: "
      ++ toString Packet.minimumCapacity ++ ")"
  | frameSmall size =>
    "Max frame size too small: " ++ toString size.toNat ++ " (minimum: "
      ++ toString Packet.minimumMessage ++ ")"
  | frameLarge size =>
    "Max frame size too large: " ++ toString size.toNat ++ " (NetBIOS limit: "
      ++ toString Frame.maximumLength ++ ")"
  | applicationEmpty => "Application name cannot be empty"
  | applicationLong length =>
    "Application name too long: " ++ toString length ++ " characters (maximum: "
      ++ toString longestApplication ++ ")"
  | directoryMissing path => "Log file directory does not exist: " ++ path
  | pathMissing => "log_file_path must be specified when log_to_file is true"
  | outputMissing => "At least one logging output (console or file) must be enabled"
  | bufferExceedsFrame size limit =>
    "Buffer size " ++ toString size.toNat ++ " exceeds the largest NetBIOS frame ("
      ++ toString limit.toNat ++ " bytes)"

def problemIf (condition : Bool) (problem : Problem) : List Problem :=
  if condition then [problem] else []

@[simp]
theorem problemIf_eq_nil_iff (condition : Bool) (problem : Problem) :
    problemIf condition problem = [] ↔ condition = false := by
  cases condition <;> simp [problemIf]

/-- An address names a host and gives a port. -/
def isAddress (address : String) : Bool :=
  match Endpoint.splitAtLastColon? address with
  | some (host, port) => !host.isEmpty && (Endpoint.port? port).isSome
  | none => false

def addressProblems (address : String) : List Problem :=
  if address.isEmpty then [.addressEmpty]
  else problemIf (!isAddress address) (.addressInvalid address)

/-- Problems of the time that connecting may take. -/
def connectionProblems (timeout : Duration) : List Problem :=
  if timeout.milliseconds < shortestTimeout then [.connectionTimeoutShort]
  else problemIf (longestTimeout < timeout.seconds) .connectionTimeoutLong

def Client.problems (client : Client) : List Problem :=
  addressProblems client.address
    ++ connectionProblems client.connectionTimeout
    ++ problemIf (client.responseTimeout.milliseconds < shortestTimeout) .responseTimeoutShort
    ++ problemIf (client.pollTimeout.nanoseconds = 0) .pollTimeoutZero
    ++ problemIf (client.bufferSize.toNat < Packet.minimumCapacity) (.bufferSmall client.bufferSize)

def Transport.problems (transport : Transport) : List Problem :=
  let size := transport.maximumFrame
  problemIf (size.toNat < Packet.minimumMessage) (.frameSmall size)
    ++ problemIf (Frame.maximumLength < size.toNat) (.frameLarge size)

def applicationProblems (application : String) : List Problem :=
  if application.isEmpty then [.applicationEmpty]
  else
    problemIf (longestApplication < application.utf8ByteSize)
      (.applicationLong application.utf8ByteSize)

/-- Problems of the file that lines go to: there has to be a path, and the directory that it names,
if it names one, has to be there. -/
def pathProblems (storage : Storage) : Option String → List Problem
  | none => [.pathMissing]
  | some path =>
    match Path.parent? path with
    | none => []
    | some parent =>
      problemIf (!parent.isEmpty && !storage.has parent) (.directoryMissing parent)

def Logging.problems (storage : Storage) (logging : Logging) : List Problem :=
  applicationProblems logging.application
    ++ (if logging.toFile then pathProblems storage logging.path else [])
    ++ problemIf (!logging.toConsole && !logging.toFile) .outputMissing

/-- Problems of packets that are made for frames.  The longest frame and the room for its header
are added as machine words, and the sum may overflow. -/
def sizeProblems (config : Config) : Option (List Problem) :=
  let size := config.client.bufferSize
  let limit := config.transport.maximumFrame
  (inSpan? (limit.toNat + Packet.headerRoom)).map fun longest =>
    problemIf (longest < size.toNat) (.bufferExceedsFrame size limit)

def problems (storage : Storage) (config : Config) : Option (List Problem) :=
  config.sizeProblems.map fun last =>
    config.client.problems ++ config.transport.problems ++ config.logging.problems storage ++ last

/-- Accepts what is without problems, and reports all of them otherwise. -/
def verdict : List Problem → Except Fault Unit
  | [] => .ok ()
  | first :: rest =>
    .error (.config ("Configuration validation failed:\n  - "
      ++ String.intercalate "\n  - " ((first :: rest).map Problem.message)))

def validate (storage : Storage) (config : Config) : Option (Except Fault Unit) :=
  (config.problems storage).map verdict

theorem problems_eq_nil_iff (storage : Storage) (config : Config) :
    config.problems storage = some [] ↔
      config.client.problems = [] ∧ config.transport.problems = [] ∧
        config.logging.problems storage = [] ∧ config.sizeProblems = some [] := by
  rw [problems, Option.map_eq_some_iff]
  simp only [List.append_eq_nil_iff, and_assoc]
  constructor
  · rintro ⟨last, hlast, hclient, htransport, hlogging, rfl⟩
    exact ⟨hclient, htransport, hlogging, hlast⟩
  · rintro ⟨hclient, htransport, hlogging, hsize⟩
    exact ⟨[], hsize, hclient, htransport, hlogging, rfl⟩

theorem verdict_eq_ok_iff (problems : List Problem) :
    verdict problems = .ok () ↔ problems = [] := by
  cases problems with
  | nil => exact iff_of_true rfl rfl
  | cons first rest => exact iff_of_false nofun (List.cons_ne_nil first rest)

theorem validate_eq_ok_iff (storage : Storage) (config : Config) :
    config.validate storage = some (.ok ()) ↔ config.problems storage = some [] := by
  simp only [validate, Option.map_eq_some_iff, verdict_eq_ok_iff, exists_eq_right]

/-- Validation overflows with limits so long that the header does not fit in front of a frame. -/
theorem validate_eq_none_iff (storage : Storage) (config : Config) :
    config.validate storage = none ↔
      positionSpan ≤ config.transport.maximumFrame.toNat + Packet.headerRoom := by
  simp only [validate, problems, sizeProblems, Option.map_eq_none_iff, inSpan?_eq_none_iff]

/-- The default configuration is valid, whatever files there are. -/
theorem validate_default (storage : Storage) : default.validate storage = some (.ok ()) := by
  rw [validate_eq_ok_iff, problems_eq_nil_iff]
  have hname : applicationProblems default.logging.application = [] := by decide +kernel
  have hlogging : default.logging.problems storage = [] := by
    rw [Logging.problems, hname]
    rfl
  exact ⟨by decide +kernel, by decide +kernel, hlogging, by decide +kernel⟩

end SmbExchange.Config

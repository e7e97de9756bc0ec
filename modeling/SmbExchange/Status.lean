import SmbExchange.Text.Hex

/-!
# Status of a response

A server reports the outcome of a request in one of two ways: an error class with an error code,
or a 32-bit NT status.  `Status` holds exactly one of them.  The names and texts serve diagnostics
only; decisions are made on the numbers.
-/

namespace SmbExchange

/-- The decoded status field of a message. -/
inductive Status where
  /-- An error class and an error code, one byte each. -/
  | legacy (errorClass code : UInt8)
  /-- A 32-bit NT status. -/
  | nt (code : UInt32)
  deriving DecidableEq, Repr

namespace Status

/-- Success in the convention of the status: only the code counts, never the class. -/
def isSuccess : Status → Bool
  | legacy _ code => code == 0
  | nt code => code == 0

/-- The named object does not exist. -/
def isNotFound (status : Status) : Bool :=
  [legacy 1 2, legacy 1 3, nt 0xC000000F, nt 0xC0000034, nt 0xC000003A].contains status

def isAccessDenied (status : Status) : Bool :=
  [legacy 1 5, legacy 2 4, nt 0xC0000022].contains status

def classNames : List (UInt8 × String) :=
  [(0x00, "Success"), (0x01, "DOS"), (0x02, "Server"), (0x03, "Hardware"), (0xFF, "Command")]

/-- Texts of the error codes of the DOS class. -/
def dosTexts : List (UInt8 × String) :=
  [(1, "Bad function"), (2, "File not found"), (3, "Path not found"), (4, "Too many open files"),
   (5, "Access denied"), (6, "Invalid handle"), (8, "Not enough memory"), (15, "Invalid drive"),
   (18, "No more files"), (32, "Sharing violation"), (33, "Lock conflict"),
   (50, "Not supported"), (80, "File exists")]

/-- Texts of the error codes of the server class. -/
def serverTexts : List (UInt8 × String) :=
  [(1, "Non-specific error"), (2, "Bad password"), (4, "Access denied"), (5, "Invalid tree id"),
   (6, "Invalid network name"), (7, "Invalid device"), (49, "Print queue full"),
   (91, "Invalid user id"), (250, "Not supported")]

/-- Texts of the error codes of the hardware class. -/
def hardwareTexts : List (UInt8 × String) :=
  [(19, "Write protected"), (21, "Drive not ready"), (23, "Data error"), (29, "Write fault"),
   (30, "Read fault"), (39, "Disk full")]

def classTexts (errorClass : UInt8) : List (UInt8 × String) :=
  match errorClass with
  | 0x01 => dosTexts
  | 0x02 => serverTexts
  | 0x03 => hardwareTexts
  | _ => []

def legacyText (errorClass code : UInt8) : String :=
  if errorClass = 0 ∧ code = 0 then "Success"
  else
    match classNames.lookup errorClass, (classTexts errorClass).lookup code with
    | some name, some text => name ++ ": " ++ text
    | some name, none => name ++ ": unknown error " ++ toString code.toNat
    | none, _ =>
      "Unknown error class 0x" ++ String.ofList (Hex.upper 2 errorClass.toNat) ++ ", code "
        ++ toString code.toNat

/-- Symbolic names of well-known NT status values. -/
def ntNames : List (UInt32 × String) :=
  [(0x00000000, "STATUS_SUCCESS"),
   (0x80000005, "STATUS_BUFFER_OVERFLOW"),
   (0x80000006, "STATUS_NO_MORE_FILES"),
   (0xC0000001, "STATUS_UNSUCCESSFUL"),
   (0xC0000002, "STATUS_NOT_IMPLEMENTED"),
   (0xC0000008, "STATUS_INVALID_HANDLE"),
   (0xC000000D, "STATUS_INVALID_PARAMETER"),
   (0xC000000F, "STATUS_NO_SUCH_FILE"),
   (0xC0000016, "STATUS_MORE_PROCESSING_REQUIRED"),
   (0xC0000022, "STATUS_ACCESS_DENIED"),
   (0xC0000033, "STATUS_OBJECT_NAME_INVALID"),
   (0xC0000034, "STATUS_OBJECT_NAME_NOT_FOUND"),
   (0xC0000035, "STATUS_OBJECT_NAME_COLLISION"),
   (0xC000003A, "STATUS_OBJECT_PATH_NOT_FOUND"),
   (0xC0000043, "STATUS_SHARING_VIOLATION"),
   (0xC0000054, "STATUS_FILE_LOCK_CONFLICT"),
   (0xC000006D, "STATUS_LOGON_FAILURE"),
   (0xC000007F, "STATUS_DISK_FULL"),
   (0xC00000BA, "STATUS_FILE_IS_A_DIRECTORY"),
   (0xC00000BB, "STATUS_NOT_SUPPORTED"),
   (0xC00000CC, "STATUS_BAD_NETWORK_NAME"),
   (0xC0000103, "STATUS_NOT_A_DIRECTORY"),
   (0xC0000120, "STATUS_CANCELLED"),
   (0xC0000203, "STATUS_USER_SESSION_DELETED")]

def ntName? (code : UInt32) : Option String :=
  ntNames.lookup code

/-- Text of a status: an NT status shows its name, if any, beside its number. -/
def text : Status → String
  | legacy errorClass code => legacyText errorClass code
  | nt code =>
    let number := "0x" ++ String.ofList (Hex.upper 8 code.toNat)
    match ntName? code with
    | some name => name ++ " (" ++ number ++ ")"
    | none => number

end Status

end SmbExchange

/-!
# Command codes

The names of the commands serve diagnostics only; a packet carries the number.
-/

namespace SmbExchange.Command

def names : List (UInt8 × String) :=
  [(0x00, "CreateDirectory"), (0x01, "DeleteDirectory"), (0x02, "OpenFile"), (0x03, "CreateFile"),
   (0x04, "CloseFile"), (0x05, "FlushFile"), (0x06, "DeleteFile"), (0x07, "RenameFile"),
   (0x08, "GetFileAttributes"), (0x09, "SetFileAttributes"), (0x0A, "ReadFile"),
   (0x0B, "WriteFile"), (0x0C, "LockFile"), (0x0D, "UnlockFile"), (0x10, "CheckDirectory"),
   (0x11, "ProcessExit"), (0x12, "SeekFile"), (0x24, "LockingAndX"), (0x25, "Transaction"),
   (0x26, "TransactionSecond"), (0x27, "IOCtl"), (0x2B, "Echo"), (0x2D, "OpenAndX"),
   (0x2E, "ReadAndX"), (0x2F, "WriteAndX"), (0x32, "Transaction2"), (0x33, "Transaction2Second"),
   (0x34, "FindClose2"), (0x70, "TreeConnect"), (0x71, "TreeDisconnect"), (0x72, "Negotiate"),
   (0x73, "SessionSetupAndX"), (0x74, "LogoffAndX"), (0x75, "TreeConnectAndX"),
   (0x80, "DiskInformation"), (0x81, "Search"), (0xA0, "NTTransact"), (0xA1, "NTTransactSecond"),
   (0xA2, "NTCreateAndX"), (0xA4, "NTCancel"), (0xC0, "OpenPrintFile"), (0xC1, "WritePrintFile"),
   (0xC2, "ClosePrintFile")]

def name (code : UInt8) : String :=
  (names.lookup code).getD "Unknown"

end SmbExchange.Command

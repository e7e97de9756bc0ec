import SmbExchange.Config.Document
import SmbExchange.Storage.Files

/-!
# Configuration files

A configuration is read from a file and saved to one as the text of its document.  Saving writes
the text before it looks at the file.
-/

namespace SmbExchange.Config

inductive LoadFault where
  /-- The file cannot be read. -/
  | unreadable (fault : Fault)
  /-- The text in it is no configuration. -/
  | misfit (cause : Misfit)
  deriving DecidableEq, Repr

def load (storage : Storage) (path : String) : Except LoadFault Config :=
  match storage.openEntry path with
  | .error fault =>
    .error (.unreadable (.config ("Failed to open config file: " ++ fault.message)))
  | .ok entry =>
    match entry.text with
    | .error fault =>
      .error (.unreadable (.config ("Failed to read config file: " ++ fault.message)))
    | .ok text => (ofText text).mapError .misfit

def save (config : Config) (storage : Storage) (path : String) : Except Fault Storage :=
  match config.toText? with
  | none => .error (.config "Failed to serialize config: out-of-range value for u64 type")
  | some text =>
    (storage.write path text).mapError fun fault =>
      .config ("Failed to write config file: " ++ fault.message)

end SmbExchange.Config

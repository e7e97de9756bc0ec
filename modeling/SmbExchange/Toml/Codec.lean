import SmbExchange.Toml.Reader
import SmbExchange.Toml.Writer

/-!
# Codecs of documents

What is saved and loaded again goes through a writer and a reader of documents.  A codec is a pair
of them, of which `Codec.standard` is the one that is used.
-/

namespace SmbExchange.Toml

structure Codec where
  write? : List Section → Option String
  read? : String → Option Entries

def Codec.standard : Codec where
  write? := Toml.write?
  read? := Entries.ofText?

end SmbExchange.Toml

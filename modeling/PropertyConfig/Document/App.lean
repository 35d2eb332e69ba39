import PropertyConfig.Document.Decode

/-!
# Settings of an application

The settings of an application with a database, as a record that documents are decoded into.
-/

namespace PropertyConfig

structure Database where
  host : Text
  port : UInt16
  ratio : Double

structure App where
  name : Text
  debug : Bool
  database : Database

namespace Decoder

def database : Decoder Database :=
  let host := ['h', 'o', 's', 't']
  let port := ['p', 'o', 'r', 't']
  let ratio := ['r', 'a', 't', 'i', 'o']
  record "struct Db" [check host text, check port word16, check ratio real] fun entries => do
    pure ⟨← field entries host text, ← field entries port word16, ← field entries ratio real⟩

def app : Decoder App :=
  let name := ['n', 'a', 'm', 'e']
  let debug := ['d', 'e', 'b', 'u', 'g']
  let db := ['d', 'b']
  record "struct App" [check name text, check debug flag, check db database] fun entries => do
    pure ⟨← field entries name text, ← field entries debug flag, ← field entries db database⟩

end Decoder

namespace Store

/-- The value that a decoder reads from the document of a store (`deserialize`). -/
def decode {α : Type} (s : Store) (d : Decoder α) : Except DecodeError α := d (.table s.document)

end Store

end PropertyConfig

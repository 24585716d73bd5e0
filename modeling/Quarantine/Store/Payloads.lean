import Quarantine.Document.Identity
import Quarantine.Error
import Quarantine.Store.Table

/-!
Stores of payloads: the bytes of documents that wait for a verdict. `PayloadStore` is what a service
needs of one; `Payloads` keeps the bytes in memory and can be switched off.
-/

namespace Quarantine

/-- What a service needs of the place that keeps the bytes. -/
class PayloadStore (σ : Type) where
  /-- Keeps at most `size` bytes of a source, in place of those that were there. -/
  save (id : DocumentId) (source : Source) (size : Nat) (store : σ) : Except StorageError Unit × σ
  fetch (id : DocumentId) (store : σ) : Except StorageError Source
  delete (id : DocumentId) (store : σ) : Except StorageError Unit × σ
  ping (store : σ) : Except StorageError Unit

structure Payloads where
  kept : Table DocumentId Bytes
  online : Bool
  /-- How many payloads have been kept so far, replaced ones included. -/
  saves : Nat
  deriving DecidableEq, Repr

namespace Payloads

def empty : Payloads :=
  ⟨.empty, true, 0⟩

instance : Inhabited Payloads :=
  ⟨empty⟩

def offline : StorageError :=
  .unavailable "in-memory binary store is offline"

/-- Nothing is kept of a source that breaks within its first `size` bytes. -/
def save (id : DocumentId) (source : Source) (size : Nat) (p : Payloads) :
    Except StorageError Unit × Payloads :=
  if p.online then
    match (source.limit size).readAll with
    | .error e => (.error (.io e), p)
    | .ok bytes => (.ok (), { p with kept := p.kept.insert id bytes, saves := p.saves + 1 })
  else (.error offline, p)

def fetch (id : DocumentId) (p : Payloads) : Except StorageError Source :=
  if p.online then
    match p.kept.get? id with
    | some bytes => .ok (.ofBytes bytes)
    | none => .error (.notFound id.text)
  else .error offline

def delete (id : DocumentId) (p : Payloads) : Except StorageError Unit × Payloads :=
  if p.online then
    if p.kept.contains id then (.ok (), { p with kept := p.kept.erase id })
    else (.error (.notFound id.text), p)
  else (.error offline, p)

def ping (p : Payloads) : Except StorageError Unit :=
  if p.online then .ok () else .error offline

instance : PayloadStore Payloads where
  save := save
  fetch := fetch
  delete := delete
  ping := ping

end Payloads

end Quarantine

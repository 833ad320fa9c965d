import CsrfGuard.Journal
import CsrfGuard.Nonce.Cache
import CsrfGuard.Session.Basic

/-!
# Nonce caches on sessions

The nonce cache of a session is kept in one of the session's attributes. What the attribute holds is
the number of the cache: all caches ever made are numbered from zero in one list, the *vault*, so
that it can be told which cache a session has and whether two sessions share one. A *slot* says
which attribute is meant and what capacity a cache gets that is made for it; several slots may look
at the same attribute. A cache is made at most once for a session and attribute, namely when it is
first asked for.
-/

namespace CsrfGuard

/-- The number of a cache in the vault. -/
abbrev CacheNumber := Nat

/-- The sessions and all caches made for them. -/
structure Vault where
  sessions : List (Session CacheNumber)
  caches : List NonceCache
  deriving Repr, DecidableEq

/-- An attribute in which sessions keep a nonce cache. -/
structure CacheSlot where
  /-- The capacity of a cache that is made for the slot. -/
  capacity : Capacity
  attributeName : AttributeName
  deriving Repr, DecidableEq

namespace CacheSlot

/-- The name under which the journal knows the slots. -/
def loggerName : String := "nonceguard.store"

/-- The slot of an attribute, its caches for a number of nonces, which must be at least one. -/
def ofCapacity (size : Int) (attributeName : AttributeName) : Except GuardError CacheSlot :=
  (Capacity.ofInt size).map fun capacity => ⟨capacity, attributeName⟩

def creationRecord (slot : CacheSlot) : Record :=
  { level := .debug
    logger := loggerName
    message := "created nonce cache for session capacity=" ++ toString slot.capacity.size }

/-- The number of the cache that a session has in the slot. -/
def find? (slot : CacheSlot) (vault : Vault) (session : Nat) : Option CacheNumber :=
  vault.sessions[session]?.bind (·.get? slot.attributeName)

/-- The cache that a session has in the slot. -/
def cache? (slot : CacheSlot) (vault : Vault) (session : Nat) : Option NonceCache :=
  (slot.find? vault session).bind (vault.caches[·]?)

/-- The number of the cache that a session has in the slot, one being made if it has none; the vault
with it, and the records written. -/
def obtain (slot : CacheSlot) (vault : Vault) (session : Nat) :
    CacheNumber × Vault × List Record :=
  match slot.find? vault session with
  | some number => (number, vault, [])
  | none =>
      let number := vault.caches.length
      let attach (found : Session CacheNumber) : Session CacheNumber :=
        (found.getOrSet slot.attributeName (some number)).2.2
      (number,
        { sessions := vault.sessions.modify session attach
          caches := vault.caches ++ [NonceCache.empty slot.capacity] },
        [slot.creationRecord])

end CacheSlot

namespace Vault

def addNonce (vault : Vault) (number : CacheNumber) (nonce : String) : Vault :=
  { vault with caches := vault.caches.modify number (·.add nonce) }

def detach (vault : Vault) (session : Nat) (attributeName : AttributeName) : Vault :=
  { vault with sessions := vault.sessions.modify session (·.remove attributeName) }

end Vault

end CsrfGuard

import LiveConfig.Snapshot.Basic

/-! The published snapshot.

A store holds the current snapshot and counts how often it has been replaced. A reader may hold a
snapshot for as long as it likes: replacing the current one leaves what is held as it was. -/
namespace LiveConfig

structure Store where
  current : Snapshot
  revision : Nat

/-- A snapshot kept by a reader, with the revision at which it was current. -/
structure Held where
  snapshot : Snapshot
  revision : Nat

namespace Store

def start : Store := ⟨.empty, 0⟩

/-- Publishes a snapshot; gives the one it replaces. -/
def replace (s : Store) (new : Snapshot) : Snapshot × Store := (s.current, ⟨new, s.revision + 1⟩)

def hold (s : Store) : Held := ⟨s.current, s.revision⟩

/-- Whether a held snapshot is still the current one. -/
def isCurrent (s : Store) (h : Held) : Bool := h.revision == s.revision

end Store
end LiveConfig

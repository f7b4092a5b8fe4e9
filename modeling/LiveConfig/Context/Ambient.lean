import LiveConfig.Context.Basic

/-! The ambient context set.

Code that serves a request installs the request's contexts once and every read inside sees them.
Scopes nest: the set of the innermost scope holds, whole, and outside of a scope the set that held
before it holds again, whatever happened inside. -/
namespace LiveConfig

/-- The set that the innermost scope installed, if there is a scope. -/
abbrev Ambient := Option ContextSet

namespace Ambient

def current {m : Type → Type} [MonadReaderOf Ambient m] : m Ambient := readThe Ambient

/-- Runs an action in a scope of its own. -/
def within {m : Type → Type} {α : Type} [MonadWithReaderOf Ambient m] (contexts : ContextSet)
    (act : m α) : m α :=
  withTheReader Ambient (fun _ => some contexts) act

end Ambient
end LiveConfig

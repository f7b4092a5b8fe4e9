import LiveConfig.Rule.Basic

/-! Contexts: named groups of properties that a caller supplies.

A set of contexts is a table. Inserting puts a context under its own name, so it replaces the one
that had the name; a set read from data keeps whatever keys it was written with. A look-up context
is a set together with the client's namespace. Its flattened view names a property by its context
and itself, joined by a dot, or by itself alone in the context without a name; contexts are visited
in the order of the table, a later entry replacing an earlier one of the same name, and the
namespace comes last. -/
namespace LiveConfig

structure Context where
  name : String
  properties : Properties
deriving BEq, Inhabited

structure ContextSet where
  contexts : Table Context
deriving BEq, Inhabited

namespace ContextSet

def empty : ContextSet := ⟨.empty⟩

def get? (s : ContextSet) (name : String) : Option Context := s.contexts.get? name

def insert (s : ContextSet) (c : Context) : ContextSet := ⟨s.contexts.insert c.name c⟩

def ofList (cs : List Context) : ContextSet := cs.foldl insert empty

def toList (s : ContextSet) : List Context := s.contexts.values

def size (s : ContextSet) : Nat := s.contexts.size

end ContextSet

/-- The name under which the namespace is found. -/
def namespaceName : String := "NAMESPACE"

/-- The name under which the current time is found if no property has it. -/
def currentTimeName : String := "prefab.current-time"

structure LookupContext where
  scope : Option String
  contexts : ContextSet

namespace LookupContext

/-- Flattened name of a property. -/
def flatName (context property : String) : String :=
  if context.isEmpty then property else context ++ "." ++ property

/-- Flattened properties in the order in which they are visited. -/
def flatEntries (c : LookupContext) : List (String × ConfigValue) :=
  (c.contexts.toList.flatMap fun ctx =>
    ctx.properties.entries.map fun p => (flatName ctx.name p.1, p.2)) ++
  (c.scope.toList.map fun s => (namespaceName, (Value.string s).plain))

def flattened (c : LookupContext) : Properties := .ofList c.flatEntries

def get? (c : LookupContext) (name : String) : Option ConfigValue := c.flattened.get? name

end LookupContext
end LiveConfig

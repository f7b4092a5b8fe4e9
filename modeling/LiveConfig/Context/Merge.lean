import LiveConfig.Context.Basic

/-! Merging the contexts that bear on one read.

A context passed to the call replaces an ambient one of the same name, which replaces a global one;
contexts are replaced whole. The defaults of the server only fill in what is missing, property by
property. An absent source counts as an empty one. The merged set is a new one: in which order it
lists its contexts is not fixed by the sources, and it may differ from one merging to the next. -/
namespace LiveConfig

/-- An order in which a new set lists its contexts. -/
structure Listing where
  order : List (String × Context) → List (String × Context)
  perm : ∀ es, (order es).Perm es

namespace Listing

/-- As merging leaves them. -/
def asMerged : Listing := ⟨id, .refl⟩

def reversed : Listing := ⟨List.reverse, List.reverse_perm⟩

end Listing

structure ContextSources where
  global : Option ContextSet
  serverDefault : Option ContextSet
  ambient : Option ContextSet
  passed : Option ContextSet

/-- Contexts of a source, of which there are none when it is absent. -/
def sourceContexts (source : Option ContextSet) : List Context :=
  match source with
  | some s => s.toList
  | none => []

/-- A context with the properties it lacks taken from another. -/
def Context.fill (c base : Context) : Context :=
  let add (ps : Properties) (p : String × ConfigValue) : Properties :=
    if ps.contains p.1 then ps else ps.insert p.1 p.2
  ⟨c.name, base.properties.entries.foldl add c.properties⟩

namespace ContextSet

def overlay (s : ContextSet) (cs : List Context) : ContextSet := cs.foldl insert s

def underlay (s : ContextSet) (cs : List Context) : ContextSet :=
  cs.foldl (fun s c => if (s.get? c.name).isSome then s else s.insert c) s

/-- Fills in from one context of the defaults, under its name. -/
def fillFrom (s : ContextSet) (base : Context) : ContextSet :=
  match s.get? base.name with
  | some c => ⟨s.contexts.insert base.name (c.fill base)⟩
  | none => s.insert base

def fill (s : ContextSet) (cs : List Context) : ContextSet := cs.foldl fillFrom s

def listed (s : ContextSet) (l : Listing) : ContextSet :=
  ⟨s.contexts.reorder (l.order s.contexts.entries) (l.perm s.contexts.entries)⟩

end ContextSet

def LookupContext.listed (c : LookupContext) (l : Listing) : LookupContext :=
  ⟨c.scope, c.contexts.listed l⟩

def ContextSources.merge (s : ContextSources) : ContextSet :=
  (((s.ambient.getD .empty).overlay (sourceContexts s.passed)).underlay
    (sourceContexts s.global)).fill (sourceContexts s.serverDefault)

end LiveConfig

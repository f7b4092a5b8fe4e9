import LiveConfig.Proofs.Client.Reachable

/-! Sessions of a thread.

A thread keeps its ambient contexts in a slot: entering a scope replaces what the slot holds, and
leaving it puts back what was there. Reads that bring no contexts share one look-up context, which
is made when it is first asked for, kept in a cell, and dropped with the snapshot that it belongs
to. A session is a tree of reads, updates and scopes. Played on a thread it finds and logs what the
same actions find and log in nested scopes of a client, and leaves the slot as it was: the shared
look-up context is never an old one, and no scope is left open. -/
namespace LiveConfig

theorem ClientM.run_getMatch (w : World) (passed : Option ContextSet) (key : String)
    (ambient : Ambient) (c : Client) : ((getMatch w passed key).run ambient).run c = do
      let found ← c.snapshot.evaluate Murmur3.fraction (w.draws 0) (w.clock 0)
        (c.lookupFor w.listing ambient passed) key
      return (found, c) := rfl

theorem ClientM.run_apply (clock : Clock) (u : Update) (ambient : Ambient) (c : Client) :
    ((ClientM.apply clock u).run ambient).run c = c.apply clock u := by
  change (pure (c, c) >>= fun p : Client × Client =>
    (p.1.apply clock u >>= fun r => pure (r, p.2)) >>= fun p =>
      pure ((), p.1.2) >>= fun q : Unit × Client => pure (p.1.1, q.2)) = c.apply clock u
  simp only [pure_bind, bind_assoc]
  exact bind_pure _

namespace Client

/-- The look-up context that reads share is that of the published snapshot. -/
def Shares (c : Client) : Prop := c.base = c.sharedLookup

theorem shares_apply (c : Client) (clock : Clock) (u : Update) :
    (c.apply clock u).result.2.Shares := by
  unfold apply Shares
  simp only [Logged.result_bind, Logged.result_pure]
  obtain ⟨_, _, same⟩ := dispatch_frame _ _
  rw [same]
  rfl

theorem Reachable.shares {c : Client} (reachable : c.Reachable) : c.Shares := by
  induction reachable with
  | start config => rfl
  | @step α c act ambient _ asked ih =>
    rcases asked.cases with ⟨clock, u, updated⟩ | kept
    · rw [updated]
      exact c.shares_apply clock u
    · obtain ⟨_, _, _, same⟩ := kept ambient c
      rw [same]
      exact ih

end Client

/-- Reads, updates and scopes, in the order in which a thread performs them. -/
inductive Session
  | done
  | read (w : World) (passed : Option ContextSet) (key : String) (rest : Session)
  | update (clock : Clock) (u : Update) (rest : Session)
  | scope (contexts : ContextSet) (body rest : Session)

/-- The slot of a thread, the cell of the published snapshot, and the client. -/
structure Thread where
  slot : Ambient
  cell : Option LookupContext
  client : Client

namespace Thread

/-- What a read looks properties up in: the contexts merged for it, or, if it brings none, the
shared ones, which are merged at the first such read. -/
def lookup (t : Thread) (l : Listing) (passed : Option ContextSet) : LookupContext × Thread :=
  if t.slot.isNone && passed.isNone then
    match t.cell with
    | some shared => (shared, t)
    | none =>
      let shared := t.client.sharedLookup
      (shared, { t with cell := some shared })
  else (t.client.lookupContext l t.slot passed, t)

/-- An update publishes a snapshot, whose cell is empty. -/
def update (t : Thread) (clock : Clock) (u : Update) : Logged Thread := do
  let (_, client) ← t.client.apply clock u
  return { t with client, cell := none }

/-- What the cell holds belongs to the published snapshot. -/
structure Fresh (t : Thread) : Prop where
  shares : t.client.Shares
  cell : ∀ shared, t.cell = some shared → shared = t.client.base

end Thread

namespace Session

/-- The matches that a session finds on a thread, and the thread after it. -/
def play : Session → Thread → Logged (List (Option Match) × Thread)
  | done, t => return ([], t)
  | read w passed key rest, t => do
    let (context, t) := t.lookup w.listing passed
    let found ← t.client.snapshot.evaluate Murmur3.fraction (w.draws 0) (w.clock 0) context key
    let (others, t) ← rest.play t
    return (found :: others, t)
  | update clock u rest, t => do
    let t ← t.update clock u
    rest.play t
  | scope contexts body rest, t => do
    let previous := t.slot
    let (inside, t) ← body.play { t with slot := some contexts }
    let (others, t) ← rest.play { t with slot := previous }
    return (inside ++ others, t)

/-- The same actions on a client. -/
def act : Session → ClientM (List (Option Match))
  | done => return []
  | read w passed key rest => do
    let found ← ClientM.getMatch w passed key
    let others ← rest.act
    return found :: others
  | update clock u rest => do
    let _ ← ClientM.apply clock u
    rest.act
  | scope contexts body rest => do
    let inside ← Ambient.within contexts body.act
    let others ← rest.act
    return inside ++ others

end Session

namespace Thread

variable {t : Thread}

/-- On a fresh thread, a read looks up in what it looks up in on the client. -/
theorem Fresh.lookup (fresh : t.Fresh) (l : Listing) (passed : Option ContextSet) : ∃ cell,
    t.lookup l passed = (t.client.lookupFor l t.slot passed, ⟨t.slot, cell, t.client⟩) ∧
      Fresh ⟨t.slot, cell, t.client⟩ := by
  obtain ⟨slot, cell, client⟩ := t
  unfold Thread.lookup Client.lookupFor
  simp only
  split
  · cases cell with
    | some shared => exact ⟨some shared, by rw [fresh.cell shared rfl], fresh⟩
    | none =>
      have made : client.sharedLookup = client.base := fresh.shares.symm
      refine ⟨some client.base, by rw [made], fresh.shares, ?_⟩
      rintro _ ⟨⟩
      rfl
  · exact ⟨cell, rfl, fresh⟩

/-- An update leaves nothing of the snapshot before it in the cell. -/
theorem fresh_update (t : Thread) (clock : Clock) (u : Update) :
    (t.update clock u).result.Fresh :=
  ⟨t.client.shares_apply clock u, nofun⟩

/-- A scope has no part in what is shared. -/
theorem Fresh.scoped (fresh : t.Fresh) (slot : Ambient) : Fresh { t with slot } :=
  ⟨fresh.shares, fresh.cell⟩

end Thread

namespace Session

section Act

variable {ambient : Ambient} {c : Client} {rest body : Session}

theorem run_read {w : World} {passed : Option ContextSet} {key : String} :
    ((read w passed key rest).act.run ambient).run c = do
      let found ← c.snapshot.evaluate Murmur3.fraction (w.draws 0) (w.clock 0)
        (c.lookupFor w.listing ambient passed) key
      let (others, c) ← (rest.act.run ambient).run c
      return (found :: others, c) := by
  simp only [act, ReaderT.run_bind, StateT.run_bind, ClientM.run_getMatch, bind_assoc, pure_bind]
  rfl

theorem run_update {clock : Clock} {u : Update} :
    ((update clock u rest).act.run ambient).run c =
      c.apply clock u >>= fun r => (rest.act.run ambient).run r.2 := by
  simp only [act, ReaderT.run_bind, StateT.run_bind, ClientM.run_apply]

theorem run_scope {contexts : ContextSet} :
    ((scope contexts body rest).act.run ambient).run c = do
      let (inside, c) ← (body.act.run (some contexts)).run c
      let (others, c) ← (rest.act.run ambient).run c
      return (inside ++ others, c) := by
  simp only [act, ReaderT.run_bind, StateT.run_bind]
  rfl

end Act

/-- A session on a fresh thread is the same session on the client in the scope of the slot; after it
the slot is as before and the thread is fresh. -/
theorem play_eq (session : Session) {t : Thread} (fresh : t.Fresh) : ∃ cell,
    session.play t = (do
      let (found, c) ← (session.act.run t.slot).run t.client
      return (found, ⟨t.slot, cell, c⟩)) ∧
    Thread.Fresh ⟨t.slot, cell, session.act.after t.slot t.client⟩ := by
  induction session generalizing t with
  | done => exact ⟨t.cell, rfl, fresh⟩
  | read w passed key rest ih =>
    obtain ⟨made, looked, kept⟩ := fresh.lookup w.listing passed
    obtain ⟨cell, played, after⟩ := ih kept
    refine ⟨cell, ?_, after⟩
    simp only [play, looked, played, run_read, bind_assoc, pure_bind]
  | update clock u rest ih =>
    obtain ⟨cell, played, after⟩ := ih (t.fresh_update clock u)
    refine ⟨cell, ?_, after⟩
    have updated : t.update clock u =
        (fun r => ⟨t.slot, none, r.2⟩) <$> t.client.apply clock u := rfl
    rw [play, run_update, updated, map_eq_pure_bind]
    simp only [bind_assoc, pure_bind]
    exact Logged.bind_congr played
  | scope contexts body rest ihBody ihRest =>
    obtain ⟨made, inside, kept⟩ := ihBody (fresh.scoped (some contexts))
    obtain ⟨cell, outside, after⟩ := ihRest (kept.scoped t.slot)
    refine ⟨cell, ?_, after⟩
    simp only [play, inside, run_scope, bind_assoc, pure_bind]
    refine Logged.bind_congr ?_
    change (rest.play ⟨t.slot, made, body.act.after (some contexts) t.client⟩ >>= _) = _
    simp only [outside, bind_assoc, pure_bind]
    rfl

end Session
end LiveConfig

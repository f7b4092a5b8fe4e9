import Mathlib.Data.List.Infix
import LiveConfig.Proofs.Client.Redelivery

/-! Resuming delivery from the highwater mark.

A transport that reconnects asks for everything above the mark and may be sent more. Along a log
whose ids rise from above the mark, what has not been delivered yet lies above the mark, so nothing
is left out; and what comes twice is the end of what came before, so it leaves what it left the
first time: a config that is put back although a newer tombstone has removed it is removed again by
that tombstone. A mark that was raised by other deliveries hides what the log has below it. -/
namespace LiveConfig

variable {log before rest resumed : List Arrival}

/-- The ids of a log rise. -/
def Rising (log : List Arrival) : Prop := log.Pairwise fun a b => a.id < b.id

theorem Rising.nodup (rising : Rising log) : log.Nodup := by
  apply List.Pairwise.imp _ rising
  rintro a _ lower rfl
  rw [Int64.lt_iff_toInt_lt] at lower
  omega

theorem heldAfter_append (held : Option Element) (key : String) (first second : List Arrival) :
    heldAfter held key (first ++ second) = heldAfter (heldAfter held key first) key second := by
  unfold heldAfter
  rw [List.filter_append, List.foldl_append]

/-- Arrivals that a run ended with change nothing when they come again. -/
theorem heldAfter_overlap (held : Option Element) (key : String) (earlier overlap : List Arrival) :
    heldAfter (heldAfter held key (earlier ++ overlap)) key overlap =
      heldAfter held key (earlier ++ overlap) := by
  rw [heldAfter_append, heldAfter_heldAfter]

theorem highestId_le {arrivals : List Arrival} {bound : Int} (nonneg : 0 ≤ bound)
    (below : ∀ a ∈ arrivals, a.id.toInt ≤ bound) : highestId arrivals ≤ bound := by
  unfold highestId
  induction arrivals with
  | nil => exact nonneg
  | cons a arrivals ih =>
    rw [List.forall_mem_cons] at below
    exact max_le below.1 (ih below.2)

/-- What a log has after a cut is newer than all before it. -/
theorem Rising.highestId_lt (rising : Rising (before ++ rest)) {a : Arrival} (later : a ∈ rest)
    (positive : 0 < a.id.toInt) : highestId before < a.id.toInt := by
  have bound : highestId before ≤ a.id.toInt - 1 := by
    apply highestId_le
    · omega
    · intro b earlier
      have lower := (List.pairwise_append.mp rising).2.2 b earlier a later
      rw [Int64.lt_iff_toInt_lt] at lower
      omega
  omega

/-- A suffix of a log that covers what comes after a cut begins before the cut. -/
theorem exists_overlap (rising : Rising (before ++ rest)) (suffix : resumed <:+ before ++ rest)
    (covers : ∀ a ∈ rest, a ∈ resumed) :
    ∃ earlier overlap, before = earlier ++ overlap ∧ resumed = overlap ++ rest := by
  rcases List.suffix_or_suffix_of_suffix suffix (List.suffix_append before rest) with
    ⟨skipped, whole⟩ | ⟨overlap, whole⟩
  · have once : (skipped ++ resumed).Nodup := whole ▸ (List.nodup_append.mp rising.nodup).2.1
    have none : skipped = [] := by
      apply List.eq_nil_iff_forall_not_mem.mpr
      intro a member
      have again : a ∈ resumed := covers a (whole ▸ List.mem_append_left _ member)
      exact (List.nodup_append.mp once).2.2 a member a again rfl
    subst none
    exact ⟨before, [], (List.append_nil before).symm, whole⟩
  · obtain ⟨earlier, split⟩ := suffix
    rw [← whole, ← List.append_assoc] at split
    exact ⟨earlier, overlap, (List.append_cancel_right split).symm, whole.symm⟩

namespace Client

theorem get?_delivered_applyEach (c : Client) (us : List (Clock × Update)) (key : String) :
    (c.applyEach us).result.layers.delivered.get? key =
      heldAfter (c.layers.delivered.get? key) key (arrivalsOf us) := by
  rw [layers_applyEach, Layers.get?_delivered_applyAll]

theorem Reachable.applyEach {c : Client} (reachable : c.Reachable) (us : List (Clock × Update)) :
    (c.applyEach us).result.Reachable := by
  induction us generalizing c with
  | nil => exact reachable
  | cons u us ih =>
    obtain ⟨clock, u⟩ := u
    exact ih (reachable.step none (.apply clock u))

theorem Reachable.highwater_nonneg {c : Client} (reachable : c.Reachable) :
    0 ≤ c.highwater.toInt :=
  reachable.marked.nonneg

theorem Reachable.highwater_applyEach {c : Client} (reachable : c.Reachable)
    (us : List (Clock × Update)) : (c.applyEach us).result.highwater.toInt =
      max c.highwater.toInt (highestId (arrivalsOf us)) := by
  unfold highwater
  rw [layers_applyEach]
  exact (reachable.marked.applyAll (arrivalsOf us)).2

/-- Where the ids of a log rise from above the mark of a client, which is zero before anything has
been accepted, it may be delivered up to any point and then again from any earlier point that leaves
out nothing above the mark by then: in the end the delivered configs and the mark are those after
one delivery of the whole log. How the deliveries are divided into updates makes no difference. -/
theorem resume_loses_nothing {c : Client} (reachable : c.Reachable) {log : List Arrival}
    (rising : Rising log) (above : ∀ a ∈ log, c.highwater < a.id)
    {us us' whole : List (Clock × Update)} (cut : arrivalsOf us <+: log)
    (suffix : arrivalsOf us' <:+ log)
    (covers : ∀ a ∈ log, (c.applyEach us).result.highwater < a.id → a ∈ arrivalsOf us')
    (once : arrivalsOf whole = log) :
    let resumed := ((c.applyEach us).result.applyEach us').result
    resumed.layers.delivered.Alike (c.applyEach whole).result.layers.delivered ∧
      resumed.highwater = (c.applyEach whole).result.highwater := by
  intro resumed
  obtain ⟨rest, rfl⟩ := cut
  have mark := reachable.highwater_applyEach us
  have left : ∀ a ∈ rest, a ∈ arrivalsOf us' := by
    intro a later
    have inLog := List.mem_append_right (arrivalsOf us) later
    have first := above a inLog
    have nonneg := reachable.highwater_nonneg
    rw [Int64.lt_iff_toInt_lt] at first
    have newest := rising.highestId_lt later (by omega)
    apply covers a inLog
    rw [Int64.lt_iff_toInt_lt, mark]
    omega
  obtain ⟨earlier, overlap, before, after⟩ := exists_overlap rising suffix left
  constructor
  · intro key
    rw [get?_delivered_applyEach, get?_delivered_applyEach, get?_delivered_applyEach, once, after,
      before, heldAfter_append _ key overlap, heldAfter_overlap, ← heldAfter_append]
  · have again := (reachable.applyEach us).highwater_applyEach us'
    have single := reachable.highwater_applyEach whole
    rw [after, highestId_append, mark, before, highestId_append] at again
    rw [once, before, highestId_append, highestId_append] at single
    rw [← Int64.toInt_inj, again, single]
    omega

/-- The mark after the deletion is 3. When the whole log comes again, the version 1 is put back and
then deleted a second time, before the version 5 arrives. -/
theorem resume_puts_back :
    let c := start ⟨none, .empty, [], [], 0, false, fun _ => .asMerged⟩
    let log := [Arrival.version 1, Arrival.deletion 3, Arrival.version 5]
    let us : List (Clock × Update) :=
      [(fun _ => 0, ⟨[Arrival.version 1, Arrival.deletion 3], none, none⟩)]
    let us' : List (Clock × Update) :=
      [(fun _ => 0, ⟨[Arrival.version 1], none, none⟩),
        (fun _ => 0, ⟨[Arrival.deletion 3, Arrival.version 5], none, none⟩)]
    let whole : List (Clock × Update) := [(fun _ => 0, ⟨log, none, none⟩)]
    let resumed := ((c.applyEach us).result.applyEach us').result
    (resumed.layers.delivered.get? "k").map (·.config.id) = some 5 ∧
      resumed.layers.delivered.get? "k" = (c.applyEach whole).result.layers.delivered.get? "k" ∧
      resumed.highwater = (c.applyEach whole).result.highwater := by
  intro c log us us' whole resumed
  have rising : Rising log := by
    unfold Rising
    decide
  have covers : ∀ a ∈ log, (c.applyEach us).result.highwater < a.id → a ∈ arrivalsOf us' :=
    fun a member _ => member
  have again : arrivalsOf us' <:+ log := List.suffix_refl log
  have first : arrivalsOf us <+: log := List.prefix_append (arrivalsOf us) [Arrival.version 5]
  have once : arrivalsOf whole = log := rfl
  obtain ⟨delivered, mark⟩ :=
    resume_loses_nothing (Reachable.start _) rising (by decide) first again covers once
  refine ⟨?_, delivered "k", mark⟩
  rw [delivered "k", get?_delivered_applyEach]
  decide

/-- A deletion of a key that is not there has left nothing but a mark of 100. A log that has the
version 1 has nothing above that, so a transport that asks for no more is sent nothing. -/
theorem resume_skips_below_mark :
    let removal : List (Clock × Update) := [(fun _ => 0, ⟨[Arrival.deletion 100], none, none⟩)]
    let c := ((start ⟨none, .empty, [], [], 0, false, fun _ => .asMerged⟩).applyEach removal).result
    let log := [Arrival.version 1]
    let whole : List (Clock × Update) := [(fun _ => 0, ⟨log, none, none⟩)]
    let resumed := ((c.applyEach []).result.applyEach []).result
    c.Reachable ∧ c.layers.delivered.isEmpty = true ∧ Rising log ∧ (∀ a ∈ log, 0 < a.id) ∧
      arrivalsOf [] <+: log ∧ arrivalsOf [] <:+ log ∧
      (∀ a ∈ log, (c.applyEach []).result.highwater < a.id → a ∈ arrivalsOf []) ∧
      arrivalsOf whole = log ∧
      (resumed.layers.delivered.get? "k").map (·.config.id) = none ∧
      ((c.applyEach whole).result.layers.delivered.get? "k").map (·.config.id) = some 1 := by
  intro removal c log whole resumed
  have layers : c.layers = ((start _).layers.applyAll [Arrival.deletion 100]).result :=
    layers_applyEach _ removal
  have mark : c.highwater = 100 := by
    unfold highwater
    rw [layers]
    decide
  refine ⟨(Reachable.start _).applyEach removal, ?_, List.pairwise_singleton _ _, by decide,
    List.nil_prefix, List.nil_suffix, ?_, rfl, ?_, ?_⟩
  · rw [layers]
    decide
  · intro a member (above : c.highwater < a.id)
    obtain rfl := List.mem_singleton.mp member
    rw [mark] at above
    exact absurd above (by decide)
  · rw [get?_delivered_applyEach, get?_delivered_applyEach, get?_delivered_applyEach]
    decide
  · rw [get?_delivered_applyEach, get?_delivered_applyEach]
    decide

end Client
end LiveConfig

import LiveConfig.Proofs.Evaluation.Agreement

/-! The properties of a row as part of the caller's context.

The properties of a row are seen by its criteria and by everything that they ask about, in front of
what the caller brings. So a config of which one row applies is evaluated as if that row had no
properties and the caller had brought them: they are seen in every segment, the rows there stand in
front of them, and they stand in front of the caller's own. Distributions are left out: the identity
that one looks for is the caller's alone, never that of a row. -/
namespace LiveConfig

open Relation (TransGen ReflTransGen)

def Row.bare (row : Row) : Row := { row with properties := .empty }

/-- An element of which one row has lost its properties. -/
def Element.bareAt (e : Element) (i : Nat) : Element :=
  { e with config := { e.config with rows := e.config.rows.modify i Row.bare } }

/-- A snapshot in which an element is held in place of the one of its key. -/
def Snapshot.replaced (s : Snapshot) (e : Element) : Snapshot :=
  { s with elements := s.elements.insert e.key e }

/-- No distribution of a config that references lead to from a key looks for its identity under one
of some names. -/
def Snapshot.HashesOutside (s : Snapshot) (key : String) (properties : Properties) : Prop :=
  ∀ k, ReflTransGen s.Refers key k → ∀ e, s.get? k = some e →
    ∀ r ∈ e.config.applicableRows s.environment, ∀ d ∈ r.2.distributions,
      ∀ name, d.hashBy = some name → properties.get? name = none

/-- A property of the row that a key is tried in is seen in every segment that is entered from
there: behind the properties of the rows of segments on the way, and in front of what is seen from
outside. -/
def Inquiry.SeenInside (q : Inquiry) (key : String) (properties : Properties) : Prop :=
  ∀ inside, TransGen q.snapshot.Enters (.outermost, key) inside → ∃ nearer : List Properties,
    (∀ own ∈ nearer, ∃ k e r, TransGen q.snapshot.Refers key k ∧ q.snapshot.get? k = some e ∧
      r ∈ e.config.applicableRows q.snapshot.environment ∧ r.2.properties = own) ∧
    ∀ name, q.lookup? inside.1 name = (nearer.findSome? (·.get? name)).or
      ((properties.get? name).or (q.lookup? .outermost name))

/-- A context that brings what another one brings, with some properties in front of it. -/
def LookupContext.Overlays (upper lower : LookupContext) (properties : Properties) : Prop :=
  ∀ name, upper.get? name = (properties.get? name).or (lower.get? name)

section Rows

variable {c : Config} {i : Nat}

theorem Config.indexedRows_modify (c : Config) (i : Nat) (f : Row → Row) :
    ({ c with rows := c.rows.modify i f } : Config).indexedRows =
      c.indexedRows.map fun r => if r.1 = i then (r.1, f r.2) else r := by
  apply List.ext_getElem?
  intro n
  simp only [Config.indexedRows, List.getElem?_map, List.getElem?_zipIdx, List.getElem?_modify]
  cases c.rows[n]? with
  | none => simp
  | some row => by_cases same : i = n <;> simp [same, eq_comm]

/-- What applies is decided by the environments of the rows alone. -/
theorem Config.applicableRows_modify (c : Config) (i : Nat) {f : Row → Row}
    (kept : ∀ row, (f row).environment = row.environment) (environment : Option Int64) :
    ({ c with rows := c.rows.modify i f } : Config).applicableRows environment =
      (c.applicableRows environment).map fun r => if r.1 = i then (r.1, f r.2) else r := by
  have environments : ∀ r : Nat × Row,
      (if r.1 = i then (r.1, f r.2) else r).2.environment = r.2.environment := by
    intro r
    split
    · exact kept r.2
    · rfl
  unfold Config.applicableRows
  rw [indexedRows_modify]
  simp only [List.filter_map, List.map_append, Function.comp_def, environments]

end Rows

namespace Snapshot

variable {s : Snapshot} {e : Element} {i : Nat} {row : Row} {upper lower : LookupContext}

theorem get?_replaced (s : Snapshot) (e : Element) (key : String) :
    (s.replaced e).get? key = if key = e.key then some e else s.get? key :=
  Table.get?_insert _ _ _ _

theorem applicableRows_bareAt {environment : Option Int64}
    (only : e.config.applicableRows environment = [(i, row)]) :
    (e.bareAt i).config.applicableRows environment = [(i, row.bare)] := by
  have modified := e.config.applicableRows_modify i (f := Row.bare) (fun _ => rfl) environment
  rw [only, List.map_singleton, if_pos rfl] at modified
  exact modified

/-- In front of a bare row the caller brings what the row had. -/
theorem agree_overlay (overlays : upper.Overlays lower row.properties) {t : Snapshot}
    (selection : Selection) (now : Int64) (key : String) :
    (s.inquiry selection now lower).Agree (t.inquiry selection now upper)
      ((Scope.outermost.enter key).within row.properties)
      ((Scope.outermost.enter key).within row.bare.properties) := by
  constructor
  · funext name
    have brought : upper.flattened.get? name =
      (row.properties.get? name).or (lower.flattened.get? name) := overlays name
    rw [Inquiry.lookup?_within, Inquiry.lookup?_within]
    simp only [View.within, Inquiry.lookup?, inquiry, Row.bare, brought, Table.get?_empty,
      Option.none_or, Option.or_assoc]
    rfl
  · rw [Scope.keys_within, Scope.keys_within]

theorem beyond_overlay (overlays : upper.Overlays lower row.properties)
    (outside : s.HashesOutside e.key row.properties) (selection : Selection) (now : Int64) :
    (s.inquiry selection now lower).Beyond ((s.replaced (e.bareAt i)).inquiry selection now upper)
      e.key where
  selections := rfl
  environments := rfl
  others := by
    intro key other
    exact (get?_replaced s (e.bareAt i) key).trans (if_neg other)
  identities := by
    intro key reached held present r applicable d carried
    have free := outside key reached held present r applicable d carried
    apply Distribution.identity?_congr
    intro name hashed
    have brought := overlays name
    rw [free name hashed, Option.none_or] at brought
    exact brought.symm

theorem seenInside {q : Inquiry} (present : q.snapshot.get? e.key = some e)
    (only : e.config.applicableRows q.snapshot.environment = [(i, row)]) :
    q.SeenInside e.key row.properties := by
  intro inside entered
  induction entered with
  | single enters =>
    cases enters with
    | @segment _ _ _ held r _ _ found applicable _ _ _ _ =>
      rw [present] at found
      cases found
      rw [only, List.mem_singleton] at applicable
      cases applicable
      refine ⟨[], fun _ none => absurd none List.not_mem_nil, fun name => ?_⟩
      rw [Inquiry.lookup?_within]
      rfl
  | tail before enters ih =>
    obtain ⟨nearer, own, seen⟩ := ih
    have leads := leads_of_enters before
    cases enters with
    | @segment scope key _ held r _ _ found applicable _ _ _ _ =>
      refine ⟨r.2.properties :: nearer, ?_, fun name => ?_⟩
      · rw [List.forall_mem_cons]
        exact ⟨⟨key, held, r, leads, found, applicable, rfl⟩, own⟩
      · rw [Inquiry.lookup?_within, List.findSome?_cons]
        have outer : q.lookup? (scope.enter held.key) name = _ := seen name
        unfold View.within
        rw [outer]
        cases r.2.properties.get? name <;> rfl

/-- A config of which one row applies is evaluated alike with the properties of that row, and
without them for a caller who brings them in front of the own ones: with the same error, or the same
value, indexes and criteria, and with the same draws and log. Inside of every segment the properties
of the row stand in front of the caller's and behind those of the rows on the way. -/
theorem tryEvaluateDrawing_overlay (present : s.get? e.key = some e)
    (only : e.config.applicableRows s.environment = [(i, row)])
    (overlays : upper.Overlays lower row.properties)
    (outside : s.HashesOutside e.key row.properties) (sharder : Sharder) (draws : Draws)
    (now : Int64) :
    (s.replaced (e.bareAt i)).tryEvaluateDrawing sharder draws now upper e.key =
      (fun m : Match => { m with element := e.bareAt i }) <$>
        s.tryEvaluateDrawing sharder draws now lower e.key ∧
      (s.inquiry (.resolve sharder draws) now lower).SeenInside e.key row.properties := by
  have altered : (s.replaced (e.bareAt i)).get? e.key = some (e.bareAt i) :=
    (get?_replaced s (e.bareAt i) e.key).trans (if_pos rfl)
  have agree := agree_overlay (s := s) (t := s.replaced (e.bareAt i)) overlays
    (.resolve sharder draws) now e.key
  have resolved := (beyond_overlay (i := i) overlays outside (.resolve sharder draws)
    now).resolve_root present altered rfl only (applicableRows_bareAt only) rfl agree
      maxSegmentDepth
  constructor
  · unfold tryEvaluateDrawing Inquiry.answer
    rw [resolved, Drawing.evaluation_map]
  · exact seenInside present only

theorem hashesOutside_of_entries {key : String} {properties : Properties}
    (free : ∀ entry ∈ s.elements.entries, ∀ r ∈ entry.2.config.applicableRows s.environment,
      ∀ d ∈ r.2.distributions, (d.hashBy.bind properties.get?).isNone = true) :
    s.HashesOutside key properties := by
  intro k _ held present r applicable d carried name hashed
  have none := free (k, held) (Table.mem_entries_of_get? present) r applicable d carried
  rw [hashed] at none
  exact Option.isNone_iff_eq_none.mp none

def ofTier (tier : String) : LookupContext :=
  ⟨none, .ofList [⟨"", .ofList [("tier", (Value.string tier).plain)]⟩]⟩

theorem flattened_ofTier (tier : String) :
    (ofTier tier).flattened = .ofList [("tier", (Value.string tier).plain)] := rfl

/-- A silver caller is a gold one for the segment that the flag asks about. -/
theorem tiered_overlay : ∃ e m, tiered.get? "flag" = some e ∧
    (tiered.tryEvaluateDrawing Murmur3.fraction (fun _ => .zero false) 0 (ofTier "silver")
      "flag").outcome = .ok m ∧ m.valueIndex = 0 ∧
    ((tiered.replaced (e.bareAt 0)).tryEvaluateDrawing Murmur3.fraction (fun _ => .zero false) 0
      (ofTier "gold") "flag").outcome = .ok { m with element := e.bareAt 0 } := by
  obtain ⟨e, row, present, key, only, properties⟩ : ∃ e row, tiered.get? "flag" = some e ∧
      e.key = "flag" ∧ e.config.applicableRows none = [(0, row)] ∧
      row.properties = .ofList [("tier", (Value.string "gold").plain)] :=
    ⟨_, _, rfl, rfl, rfl, rfl⟩
  have overlays : (ofTier "gold").Overlays (ofTier "silver") row.properties := by
    intro name
    rw [properties]
    change Table.get? (LookupContext.flattened _) name =
      (Table.get? _ name).or (Table.get? (LookupContext.flattened _) name)
    rw [flattened_ofTier, flattened_ofTier]
    simp only [Table.ofList, Table.insertAll, List.foldl_cons, List.foldl_nil, Table.get?_insert]
    split <;> simp
  have outside : tiered.HashesOutside e.key row.properties := by
    rw [properties]
    exact hashesOutside_of_entries (by decide)
  obtain ⟨same, _⟩ := tryEvaluateDrawing_overlay (key ▸ present) only overlays outside
    Murmur3.fraction (fun _ => .zero false) 0
  rw [key] at same
  have first : (tiered.tryEvaluateDrawing Murmur3.fraction (fun _ => .zero false) 0
      (ofTier "silver") "flag").outcome.toOption.map (·.valueIndex) = some 0 := by decide +kernel
  obtain ⟨m, found, index⟩ := Option.map_eq_some_iff.mp first
  have given := Drawing.ok_of_toOption found
  refine ⟨e, m, present, given, index, ?_⟩
  rw [same, Evaluation.outcome_map, given]
  rfl

end Snapshot
end LiveConfig

import CoverageDiff.Loading
import CoverageDiff.Proofs.Merging
import CoverageDiff.Proofs.Discrepancy
import CoverageDiff.Report.Rendering

/-!
# CoverageDiff.Proofs.Payload

The document of a comparison has the form of the schema.

1. A record is accepted if its fields are listed and each listed field is
   accepted or may be left out (`Schema.accepts_record_iff`).
2. The schema asks lines to be positive, indexes not to be negative, and values
   to be of exactly one of three forms (`Payload.accepts_value`).  A list of labels
   is never one of outcomes, not even the empty list, which has no two entries.
3. Everything that is to be reported is of this kind where indexes are not
   negative (`Payload.presentable_of_discrepancy`).
-/

namespace CoverageDiff

open CoverageDiff.Shelf

/-! ## Records -/

namespace Schema

/-- What a record has under the name of a listed field. -/
def FieldOk (f : String × Bool × Schema) : Option Json → Prop
  | some doc => f.2.2.accepts doc = true
  | none => f.2.1 = false

theorem acceptsFields_iff {fields : List (String × Bool × Schema)} {given : List (String × Json)} :
    acceptsFields fields given = true ↔ ∀ f ∈ fields, FieldOk f (given.lookup f.1) := by
  induction fields with
  | nil => simp [acceptsFields]
  | cons f fields ih =>
      obtain ⟨name, required, form⟩ := f
      rw [acceptsFields, Bool.and_eq_true, ih, List.forall_mem_cons]
      apply and_congr_left
      intro _
      cases given.lookup name <;> simp [FieldOk]

/-- A record is accepted if all its fields are listed and each listed field is accepted, or is
missing and may be. -/
theorem accepts_record_iff {fields : List (String × Bool × Schema)}
    {given : List (String × Json)} :
    (record fields).accepts (.obj given) = true ↔
      (∀ g ∈ given, g.1 ∈ fields.map Prod.fst) ∧ ∀ f ∈ fields, FieldOk f (given.lookup f.1) := by
  rw [accepts, Bool.and_eq_true, acceptsFields_iff]
  simp

theorem fieldOk_map {α : Type} {name : String} {form : Schema} {f : α → Json} {x : Option α}
    (h : ∀ a, x = some a → form.accepts (f a) = true) :
    FieldOk (name, false, form) (x.map f) := by
  cases x with
  | none => rfl
  | some a => exact h a rfl

theorem accepts_list_map {α : Type} {form : Schema} {f : α → Json} {xs : List α}
    (h : ∀ x ∈ xs, form.accepts (f x) = true) : (list form).accepts (.arr (xs.map f)) = true := by
  simpa [accepts] using h

end Schema

theorem Json.lookup_field? (k name : String) (value : Option Json) :
    (Json.field? name value).lookup k = if k = name then value else none := by
  cases value with
  | none => simp [Json.field?]
  | some v =>
      by_cases h : k = name
      · simp [Json.field?, h]
      · have hbeq : (k == name) = false := by simp [h]
        simp [Json.field?, List.lookup_cons, hbeq, h]

theorem Json.mem_field?_iff {name : String} {value : Option Json} {g : String × Json} :
    g ∈ Json.field? name value ↔ ∃ v, value = some v ∧ (name, v) = g := by
  simp [Json.field?]

namespace Payload

open Schema

/-! ## Values -/

/-- What a comparison shows as a value. -/
inductive Shown : Value → Prop
  | status (s : Status) : Shown (.status s)
  | outcome (o : Bool × Bool) : Shown (.outcome o)
  | cases (labels : List String) : Shown (.cases labels)

/-- **Values** have exactly one of the three forms. -/
theorem accepts_value {v : Value} (h : Shown v) : valueSchema.accepts v.toJson = true := by
  cases h with
  | status s => cases s <;> decide
  | outcome o =>
      obtain ⟨t, f⟩ := o
      simp [valueSchema, Value.outcome, Value.toJson, Mark.toJson, accepts, acceptCount]
  | cases labels =>
      simp [valueSchema, Value.cases, Value.toJson, Mark.toJson, accepts, acceptCount]
      intro hlen
      exact List.exists_mem_of_length_pos (by omega)

/-! ## Elements -/

/-- What the schema asks of an element. -/
structure Presentable (e : Element) : Prop where
  line : ∀ n, e.place.line? = some n → 1 ≤ n
  index : ∀ i, e.place.index? = some i → 0 ≤ i
  before : ∀ v, e.before = some v → Shown v
  after : ∀ v, e.after = some v → Shown v

theorem accepts_kind (k : Kind) :
    (text (some ["ADDED", "REMOVED", "CHANGED"])).accepts (.str k.name) = true := by
  cases k <;> decide

theorem accepts_element {e : Element} (h : Presentable e) :
    elementSchema.accepts e.toJson = true := by
  rw [elementSchema, accepts, Element.toJson, accepts_record_iff]
  constructor
  · simp only [List.mem_append, Json.mem_field?_iff]
    rintro g ((((hg | ⟨_, _, rfl⟩) | ⟨_, _, rfl⟩) | ⟨_, _, rfl⟩) | ⟨_, _, rfl⟩)
    · revert g
      simp
    all_goals simp
  · simp [List.lookup_cons, Json.lookup_field?, List.lookup_append]
    refine ⟨rfl, accepts_kind e.kind, fieldOk_map ?_, fieldOk_map ?_, fieldOk_map ?_,
      fieldOk_map ?_⟩
    · simpa [accepts] using h.line
    · simpa [accepts] using h.index
    · exact fun v hv => accepts_value (h.before v hv)
    · exact fun v hv => accepts_value (h.after v hv)

/-! ## Origins -/

/-- The counts of a side, if it has any, are those of a project. -/
def CountsLines (s : Side) : Prop :=
  ∀ c, s.lines = some c → ∃ p : Project, c = p.statusCounts

theorem accepts_counts (p : Project) :
    (record [("none", true, .integer (some 0)), ("partial", true, .integer (some 0)),
      ("full", true, .integer (some 0))]).accepts p.statusCounts.toJson = true := by
  rw [StatusCounts.toJson, accepts_record_iff]
  simp [FieldOk, accepts, List.lookup_cons, Project.statusCounts, StatusCounts.ofList]

theorem accepts_mode (m : Mode) :
    (text (some (Mode.all.map Mode.name))).accepts (.str m.name) = true := by
  cases m <;> decide

theorem accepts_side {s : Side} (h : CountsLines s) : sideSchema.accepts s.toJson = true := by
  rw [sideSchema, accepts, Side.toJson, accepts_record_iff]
  constructor
  · simp only [List.mem_append, Json.mem_field?_iff]
    rintro g ((hg | ⟨_, _, rfl⟩) | ⟨_, _, rfl⟩)
    · revert g
      simp
    all_goals simp
  · simp [List.lookup_cons, Json.lookup_field?, List.lookup_append]
    refine ⟨accepts_list_map fun _ _ => rfl, fieldOk_map fun m _ => accepts_mode m, fieldOk_map ?_⟩
    intro c hc
    obtain ⟨p, rfl⟩ := h c hc
    exact accepts_counts p

end Payload

/-! ## Discrepancies -/

/-- No index of a branch of the line is negative. -/
structure Line.Indexed (l : Line) : Prop where
  jumps : ∀ j ∈ l.jumps, 0 ≤ j.index
  switches : ∀ s ∈ l.switches, 0 ≤ s.index

/-- No index of a branch of the project is negative. -/
def Project.Indexed (p : Project) : Prop :=
  ∀ c ∈ p.classes, ∀ l ∈ c.lines, l.Indexed

instance (l : Line) : Decidable l.Indexed :=
  decidable_of_iff ((∀ j ∈ l.jumps, 0 ≤ j.index) ∧ ∀ s ∈ l.switches, 0 ≤ s.index)
    ⟨fun ⟨hj, hs⟩ => ⟨hj, hs⟩, fun h => ⟨h.jumps, h.switches⟩⟩

instance (p : Project) : Decidable p.Indexed :=
  inferInstanceAs (Decidable (∀ c ∈ p.classes, ∀ l ∈ c.lines, l.Indexed))

section Views

variable {p : Project} {c : String} {n i : Int} {v : LineView}

theorem Project.WellFormed.line_pos (h : p.WellFormed) (hv : p.view.line? c n = some v) :
    1 ≤ n := by
  obtain ⟨l, hl, _⟩ := view_line?_eq_some_iff.mp hv
  rw [← number_of_line? hl]
  exact (h.of_line? hl).number_pos

theorem Project.Indexed.of_line? (h : p.Indexed) {l : Line} (hl : p.line? c n = some l) :
    l.Indexed := by
  obtain ⟨k, hk, hline⟩ := line?_eq_some_iff.mp hl
  exact h k (mem_of_find? hk) l (mem_of_find? hline)

theorem Project.Indexed.outcome (h : p.Indexed) (hv : p.view.line? c n = some v) {o : Bool × Bool}
    (ho : v.outcome i = some o) : 0 ≤ i := by
  obtain ⟨l, hl, rfl⟩ := view_line?_eq_some_iff.mp hv
  obtain ⟨j, hj, _⟩ := Option.map_eq_some_iff.mp ho
  have hkey : j.index = i := key_of_find? hj
  rw [← hkey]
  exact (h.of_line? hl).jumps j (mem_of_find? hj)

theorem Project.Indexed.covered (h : p.Indexed) (hv : p.view.line? c n = some v) {t : Set String}
    (ht : v.covered i = some t) : 0 ≤ i := by
  obtain ⟨l, hl, rfl⟩ := view_line?_eq_some_iff.mp hv
  obtain ⟨s, hs, _⟩ := Option.map_eq_some_iff.mp ht
  have hkey : s.index = i := key_of_find? hs
  rw [← hkey]
  exact (h.of_line? hl).switches s (mem_of_find? hs)

end Views

namespace Payload

/-- What may stand before or after. -/
def ShownIfAny (x : Option Value) : Prop :=
  ∀ v, x = some v → Shown v

theorem ShownIfAny.none : ShownIfAny none := by simp [ShownIfAny]

theorem Shown.some {v : Value} (h : Shown v) : ShownIfAny (some v) := by simpa [ShownIfAny] using h

variable {className : String} {kind : Kind} {n i : Int} {before after : Option Value}

theorem presentable_whole : Presentable { className, kind } := by
  constructor <;> simp [Place.line?, Place.index?]

theorem presentable_line (hn : 1 ≤ n) (hbefore : ShownIfAny before) (hafter : ShownIfAny after) :
    Presentable { className, kind, place := .line n, before, after } where
  line := by simpa [Place.line?] using hn
  index := by simp [Place.index?]
  before := hbefore
  after := hafter

theorem presentable_branch (hn : 1 ≤ n) (hi : 0 ≤ i) (hbefore : ShownIfAny before)
    (hafter : ShownIfAny after) :
    Presentable { className, kind, place := .branch n i, before, after } where
  line := by simpa [Place.line?] using hn
  index := by simpa [Place.index?] using hi
  before := hbefore
  after := hafter

/-- What is to be reported can be presented, one case for each kind of element. -/
theorem presentable_of_discrepancy {a b : Project} (ha : a.WellFormed) (hb : b.WellFormed)
    (hia : a.Indexed) (hib : b.Indexed) {level : Level} {e : Element}
    (h : Discrepancy a.view b.view level e) : Presentable e := by
  have hstatus := fun s => (Shown.status s).some
  have houtcome := fun o => (Shown.outcome o).some
  have hcases := fun labels => (Shown.cases labels).some
  cases h with
  | classRemoved => exact presentable_whole
  | classAdded => exact presentable_whole
  | lineRemoved _ hva _ => exact presentable_line (ha.line_pos hva) (hstatus _) .none
  | lineAdded _ _ hvb => exact presentable_line (hb.line_pos hvb) .none (hstatus _)
  | lineChanged hva _ _ => exact presentable_line (ha.line_pos hva) (hstatus _) (hstatus _)
  | jumpRemoved hva _ hja _ =>
      exact presentable_branch (ha.line_pos hva) (hia.outcome hva hja) (houtcome _) .none
  | jumpAdded _ hvb _ hjb =>
      exact presentable_branch (hb.line_pos hvb) (hib.outcome hvb hjb) .none (houtcome _)
  | jumpChanged hva _ hja _ _ =>
      exact presentable_branch (ha.line_pos hva) (hia.outcome hva hja) (houtcome _) (houtcome _)
  | switchRemoved hva _ hsa _ _ =>
      exact presentable_branch (ha.line_pos hva) (hia.covered hva hsa) (hcases _) .none
  | switchAdded _ hvb _ hsb _ =>
      exact presentable_branch (hb.line_pos hvb) (hib.covered hvb hsb) .none (hcases _)
  | switchChanged hva _ hsa _ _ _ _ =>
      exact presentable_branch (ha.line_pos hva) (hia.covered hva hsa) (hcases _) (hcases _)

/-! ## Documents -/

theorem accepts_level {r : Report} (h : ∀ level, ∀ e ∈ r.level level, Presentable e)
    (level : Level) :
    (Schema.list elementSchema).accepts (.arr ((r.level level).map Element.toJson)) = true :=
  Schema.accepts_list_map fun e he => accepts_element (h level e he)

theorem accepts_reportCounts (r : Report) :
    (Schema.record (Level.all.map fun l => (l.name, true, .integer (some 0)))).accepts
      r.countsJson = true := by
  rw [Report.countsJson, Schema.accepts_record_iff]
  simp [Schema.FieldOk, Schema.accepts, List.lookup_cons, Report.counts, Level.all, Level.name]

theorem accepts_meta {origin : Origin} (hbaseline : CountsLines origin.baseline)
    (hcurrent : CountsLines origin.current) :
    (Schema.record [("version", true, .text none), ("baseline", true, sideSchema),
      ("current", true, sideSchema)]).accepts
        (.obj [("version", .str programVersion), ("baseline", origin.baseline.toJson),
          ("current", origin.current.toJson)]) = true := by
  rw [Schema.accepts_record_iff]
  simp [Schema.FieldOk, List.lookup_cons, accepts_side hbaseline, accepts_side hcurrent, Schema.accepts]

/-- A document of elements that can be presented has the form of the schema. -/
theorem accepts_document {r : Report} {origin : Origin}
    (h : ∀ level, ∀ e ∈ r.level level, Presentable e) (hbaseline : CountsLines origin.baseline)
    (hcurrent : CountsLines origin.current) : schema.accepts (document r origin) = true := by
  have hlevel := accepts_level h
  rw [schema, document, Report.jsonFields, Schema.accepts_record_iff]
  constructor
  · simp [Level.all, Level.name]
  · simp [List.lookup_cons, Level.all, Level.name]
    exact ⟨rfl, accepts_meta hbaseline hcurrent, rfl, accepts_reportCounts r, hlevel .classes,
      hlevel .lines, hlevel .jumps, hlevel .switches⟩

theorem accepts_between {a b : Project} (ha : a.WellFormed) (hb : b.WellFormed) (hia : a.Indexed)
    (hib : b.Indexed) {origin : Origin} (hbaseline : CountsLines origin.baseline)
    (hcurrent : CountsLines origin.current) :
    schema.accepts (document (Report.between a b) origin) = true := by
  refine accepts_document ?_ hbaseline hcurrent
  intro level e he
  exact presentable_of_discrepancy ha hb hia hib
    ((mem_level_iff_discrepancy ha.distinct hb.distinct).mp he)

theorem render?_of_accepts {r : Report} {origin : Origin}
    (h : schema.accepts (document r origin) = true) :
    render? r origin currentVersion = .ok (document r origin).render := by
  simp only [render?, build?, schema?, if_true, Except.map, h]

theorem renderAs_json_of_accepts {r : Report} {origin : Origin}
    (h : schema.accepts (document r origin) = true) (color : Bool) :
    r.renderAs .json origin color = .ok (document r origin).render := by
  simp only [Report.renderAs, render?_of_accepts h, Except.mapError]

/-- **Valid output**: the document of a comparison has the form of the schema, so it is written,
whatever reports, modes and counts of lines its sides have. -/
theorem document_between {a b : Project} (ha : a.Reachable) (hb : b.Reachable) (hia : a.Indexed)
    (hib : b.Indexed) {origin : Origin} (hbaseline : CountsLines origin.baseline)
    (hcurrent : CountsLines origin.current) :
    schema.accepts (document (Report.between a b) origin) = true ∧
      render? (Report.between a b) origin currentVersion =
        .ok (document (Report.between a b) origin).render ∧
      ∀ color, (Report.between a b).renderAs .json origin color =
        .ok (document (Report.between a b) origin).render := by
  have haccepts := accepts_between ha.wellFormed hb.wellFormed hia hib hbaseline hcurrent
  exact ⟨haccepts, render?_of_accepts haccepts, renderAs_json_of_accepts haccepts⟩

theorem countsLines_side (plan : SidePlan) (p : Project) : CountsLines (plan.side p) := by
  intro c hc
  exact ⟨p, (Option.some.inj hc).symm⟩

end Payload

/-- The samples have every kind of branch, and their comparison has elements at every level. -/
theorem Sample.document_earlier_later :
    Payload.schema.accepts (Payload.document (Report.between earlier later)
      ⟨SidePlan.side ⟨[.ofText "a.xml"], some .tracing⟩ earlier,
        SidePlan.side ⟨[.ofText "b.xml", .ofText "c.xml"], none⟩ later⟩) = true := by
  exact (Payload.document_between reachable_earlier reachable_later (by decide) (by decide)
    (Payload.countsLines_side _ _) (Payload.countsLines_side _ _)).1

end CoverageDiff

import ParamSql.Proofs.Logic.Settled
import ParamSql.Proofs.Sql.Guard

/-!
# Vacuity — changes whose conditions hold of every row

A change counts as narrowed as soon as there is a predicate in a demand of the caller.  Some
predicates are decided without any row: those that are constants, and membership in a list without
values, which is written as one.

* `Predicate.settled?` — the value of a predicate that is decided without any row;
* `Columns.predicate_of_settled` — such a predicate is written as its value;
* `Query.changes_can_fail` — the demands of a narrowed change fail of some row, unless predicates of
  that kind make them true of every one;
* `Query.emptyExclusion_vacuous` — a narrowed change that affects every row.
-/

namespace ParamSql

/-- The value of a predicate that is decided without any row. -/
def Predicate.settled? {Q : Type} : Predicate Q → Option Bool
  | .constant b => some b
  | .inList _ [] negated => some negated
  | _ => none

/-- A predicate that is decided is written as its value. -/
theorem Columns.predicate_of_settled {Q ω : Type} [Output ω] (cs : Columns) (f : Q → Rendering ω)
    {p : Predicate Q} {b : Bool} (h : p.settled? = some b) :
    cs.predicate (p.map f) = .fixed (if b then "TRUE" else "FALSE") := by
  unfold Predicate.settled? at h
  split at h
  case h_1 c =>
    cases h
    rfl
  case h_2 column negated =>
    cases h
    rfl
  case h_3 => cases h

namespace Clauses

variable {Q : Type}

/-- All demands of the caller together. -/
def demand (c : Clauses Q) : Formula (Predicate Q) :=
  .all c.demands

/-- Demands in which no predicate is decided are not decided either. -/
theorem settledValue_demand {c : Clauses Q} (hsome : ∃ f ∈ c.demands, f.atoms ≠ [])
    (hopen : ∀ f ∈ c.demands, ∀ p ∈ f.atoms, p.settled? = none) :
    c.demand.settledValue Predicate.settled? = .unknown := by
  have hatoms : c.demand.atoms = c.demands.flatMap Formula.atoms :=
    Formula.atomsOf_eq_flatMap c.demands
  apply Formula.settledValue_of_open
  · intro p hp
    rw [hatoms] at hp
    rcases List.mem_flatMap.1 hp with ⟨f, hf, hpf⟩
    exact hopen f hf p hpf
  · rcases hsome with ⟨f, hf, hne⟩
    rw [← Bool.not_eq_true, Formula.isEmpty_iff, hatoms, List.flatMap_eq_nil_iff]
    intro hnil
    exact hne (hnil f hf)

end Clauses

namespace Query

/-- A change that is written for a compiled query and not stated to be meant for every row has a
predicate in its demands.  If none of its predicates is decided without any row, its demands fail
for some choice of truth values at the places where the predicates stand.  This is so just if the
demands do not hold by the predicates that are decided; if they do, they hold for every choice. -/
theorem changes_can_fail (options : CompileOptions) {q : Query} {compiled : Compiled}
    (h : q.compile options = .ok compiled) {c : Clauses Query} (hc : q.Writes c)
    (hchange : c.isChange = true) (hall : c.all = false) :
    (∃ f ∈ c.demands, f.atoms ≠ []) ∧
    ((∀ f ∈ c.demands, ∀ p ∈ f.atoms, p.settled? = none) →
      ∃ v : Formula.Valuation Predicate.settled? c.demand, v.IsDefinite ∧ v.value = .no) ∧
    ((∃ v : Formula.Valuation Predicate.settled? c.demand, v.IsDefinite ∧ v.value = .no) ↔
      c.demand.settledValue Predicate.settled? ≠ .yes) ∧
    (c.demand.settledValue Predicate.settled? = .yes →
      ∀ v : Formula.Valuation Predicate.settled? c.demand, v.value = .yes) := by
  rcases compile_of_writes hc h with ⟨inCte, before, body, behind, hbody, -, -⟩
  have hsome : ∃ f ∈ c.demands, f.atoms ≠ [] := by
    -- a change that is written has a condition, or is stated to be meant for every row
    rcases (exists_changeParts hchange hbody).1 with htrue | hsome
    · rw [hall] at htrue
      cases htrue
    · exact hsome
  refine ⟨hsome, ?undecided, ?decided, Formula.settledValue_eq_yes_iff.1⟩
  case undecided =>
    intro hopen
    have hunknown := Clauses.settledValue_demand hsome hopen
    exact Formula.exists_valuation_no (by simp [hunknown])
  case decided =>
    constructor
    · rintro ⟨v, -, hno⟩ hyes
      have hvalue := Formula.settledValue_eq_yes_iff.1 hyes v
      rw [hno] at hvalue
      cases hvalue
    · exact Formula.exists_valuation_no

theorem changes_can_fail_unpaidOrders :
    ∃ v : Formula.Valuation Predicate.settled? unpaidOrders.clauses.demand,
      v.IsDefinite ∧ v.value = .no := by
  have hwrites : unpaidOrders.Writes unpaidOrders.clauses :=
    ⟨unpaidOrders.clauses, .head _, .self⟩
  have hfails := (changes_can_fail {} rfl hwrites rfl rfl).2.1
  apply hfails
  intro f hf p hp
  obtain rfl : f = Condition.isNull "paid" := List.mem_singleton.1 hf
  obtain rfl := List.mem_singleton.1 hp
  rfl

/-- Deletes the users whose key is not in a list without any. -/
def emptyExclusion : Query :=
  ((Table.named "user").query.filter (Condition.notInList "id" [])).delete true

/-- The demand is a constant, which counts as narrowing: every user is deleted. -/
theorem emptyExclusion_vacuous :
    emptyExclusion.compile {} = .ok ⟨"DELETE FROM \"user\" WHERE TRUE", [], false⟩ ∧
      emptyExclusion.clauses.isChange = true ∧ emptyExclusion.clauses.all = false ∧
      ∀ v : Formula.Valuation Predicate.settled? emptyExclusion.clauses.demand, v.value = .yes :=
  ⟨rfl, rfl, rfl, Formula.settledValue_eq_yes_iff.1 rfl⟩

end Query
end ParamSql

import ParamSql.Proofs.Query.Call
import ParamSql.Proofs.Sql.Context
import ParamSql.Proofs.Sql.Marker

/-!
# Scopes — default filters are applied once to every statement

A query has default filters that the caller does not have to repeat.  Every statement that is
written for a query has its own ones in its WHERE, behind what the caller asks of the rows, and no
other statement has them.

* `Query.holds_of_writes` — what is written for a query is one of the statements in it;
* `Query.default_filters_once` — default filters in texts, as queries are built, and as they are
  dropped.
-/

namespace ParamSql
namespace Query

/-! ## Written statements -/

theorem holds_of_within {c d : Clauses Query} (h : d.Within c) {q : Query} (hq : q.clauses = c) :
    q.Holds d := by
  -- by induction on where the statement stands, from the outermost query inwards
  induction h generalizing q with
  | self => exact holds_iff.2 (.inl hq.symm)
  | @inside c r hr _ ih =>
      have hingredient : .query r ∈ q.clauses.ingredients :=
        hq ▸ Clauses.query_mem_ingredients hr
      exact holds_iff.2 (.inr (.inl ⟨r, hingredient, ih rfl⟩))

/-- The appended statements of a query, with what is in them. -/
theorem holds_of_dependent {q : Query} {d : Clauses Query} :
    ∀ dependent ∈ q.dependents, d.Within dependent.clauses → q.Holds d := by
  -- by induction on the query: the appended statements of an appended one are appended as well
  induction q using Query.induction with
  | step c as _ ih =>
      intro dependent hdependent hwithin
      rw [dependents_of, List.mem_flatMap] at hdependent
      rcases hdependent with ⟨a, ha, hdependent⟩
      refine .appended ha ?_
      rcases List.mem_cons.1 hdependent with rfl | hrest
      · exact holds_of_within hwithin rfl
      · exact ih a ha dependent hrest hwithin

/-- What is written for a query is one of the statements in it. -/
theorem holds_of_writes {q : Query} {d : Clauses Query} (h : q.Writes d) : q.Holds d := by
  rcases h with ⟨c, hc, hwithin⟩
  rw [members_eq, List.mem_append, List.mem_map, List.mem_singleton] at hc
  rcases hc with ⟨dependent, hdependent, rfl⟩ | rfl
  · exact holds_of_dependent dependent hdependent hwithin
  · exact holds_of_within hwithin rfl

/-! ## Default filters -/

/-- Default filters are applied once.

In the text of a compiled query, every SELECT, UPDATE and DELETE has a WHERE with an item for
everything that the caller asks, and behind these an item for each of its own default filters, in
order; an INSERT does not depend on its default filters.

As a query is built, a default filter is added by its name only; what the caller asks does not
depend on default filters, so that none gets into a group of alternatives; every statement that is
written is one of those that the query has been built from, up to its order; and a statement around
another query has no default filters, while that query keeps its own.

A default filter that is marked by a character occurs as often as statements are written that have
it.  If one is dropped from a query that stands anywhere in another one, the statement of this query
loses the items of the filter, and everything else is written as before. -/
theorem default_filters_once (options : CompileOptions) :
    (∀ (q : Query) compiled, q.compile options = .ok compiled → ∀ d, q.Writes d →
      ∃ inCte body before behind,
        (statement options.naming inCte d : Rendering (List Lexeme)).result = .ok body ∧
        compiled.sql = Lexeme.text (before ++ body ++ behind) ∧
        compiled.params = Lexeme.params (before ++ body ++ behind) ∧
        (d.isInsertion = false →
          ∃ parts : FilterParts options.naming inCte d, body = parts.lexemes) ∧
        (d.isInsertion = true → ∀ scopes,
          (statement options.naming inCte (d.withScopes scopes) : Rendering (List Lexeme)) =
            statement options.naming inCte d)) ∧
    (∀ (q : Query) (calls : List Call),
      (∀ s ∈ (q.run calls).clauses.scopes,
        s ∈ q.clauses.scopes ∨ Call.scope s.name s.condition ∈ calls) ∧
      (∀ scopes, ((q.modify (·.withScopes scopes)).run calls).clauses.conditions =
        (q.run calls).clauses.conditions) ∧
      (∀ d, (q.run calls).Writes d → Origin q calls d) ∧
      ∀ call : Call, (call.apply (q.run calls)).clauses.scopes = call.scopes (q.run calls) ∧
        (call.wraps (q.run calls) = true →
          ∃ inner, Call.IsWrapper (q.run calls) (call.apply (q.run calls)) inner)) ∧
    (∀ (q : Query) compiled, q.compile options = .ok compiled →
      ∀ (ch : Char) (s : String), q.Spares ch → s.toList.count ch = 1 →
        (∀ d, q.Writes d → d.Spares ch s) →
          compiled.sql.toList.count ch = (q.nodes.map (Clauses.marks s)).sum) ∧
    ∀ (q : Query) (name : String) (context : Context) compiled,
      (context.plug q).compile options = .ok compiled →
        ∃ slots : List (Slot (Unscoping options.naming name q.clauses)),
          compiled = ⟨Lexeme.text (Slot.fill Unscoping.lexemes slots),
            Lexeme.params (Slot.fill Unscoping.lexemes slots), compiled.guarded⟩ ∧
          (context.plug (q.unscope name)).compile options =
            .ok ⟨Lexeme.text (Slot.fill Unscoping.unscoped slots),
              Lexeme.params (Slot.fill Unscoping.unscoped slots), compiled.guarded⟩ := by
  refine ⟨?written, ?built, ?marked,
    fun q name context compiled h => compile_unscope name context h⟩
  case written =>
    intro q compiled h d hd
    rcases compile_of_writes hd h with ⟨inCte, before, body, behind, hbody, hsql, hparams⟩
    exact ⟨inCte, body, before, behind, hbody, hsql, hparams,
      fun hinsertion => exists_filterParts hinsertion hbody,
      fun hinsertion scopes => statement_insertion hinsertion scopes⟩
  case built =>
    intro q calls
    exact ⟨fun s hs => mem_scopes_run hs, fun scopes => conditions_run q scopes calls,
      fun d hd => origin_of_holds (holds_of_writes hd),
      fun call => ⟨call.scopes_apply _, Call.exists_wrapper⟩⟩
  case marked =>
    intro q compiled h ch s hspares honce hwrites
    exact count_compiled hspares honce hwrites h

/-- A default filter that can be told from everything else. -/
def tilde : Condition :=
  .fragment (.ofText "~")

/-- The orders that are not deleted. -/
def liveOrders : Query :=
  ((Table.named "o").softDelete "gone").query.scope "tenant" tilde

/-- Customers who have such an order or no age. -/
def liveCustomers : Query :=
  (Table.named "c").query.run
    [.scope "tenant" tilde, .filter (.inQuery "id" liveOrders), .orFilter (.isNull "age")]

theorem nodes_liveCustomers :
    liveCustomers.json.nodes =
      [liveCustomers.json.clauses, (liveCustomers.deliver .all).clauses, liveOrders.clauses] := by
  have houter : liveCustomers.json.clauses.subqueries = [liveCustomers.deliver .all] := rfl
  have hcustomers : (liveCustomers.deliver .all).clauses.subqueries = [liveOrders] := rfl
  have horders : liveOrders.clauses.subqueries = [] := rfl
  rw [nodes, members_of_appended_nil rfl, List.flatMap_singleton, Clauses.nodes_eq, houter,
    List.flatMap_singleton, Clauses.nodes_eq, hcustomers, List.flatMap_singleton, Clauses.nodes_eq,
    horders, List.flatMap_nil]

/-- The names that the customers and the orders are written with. -/
def customerNames : List String :=
  ["t", "json", "c", "id", "age", "o", "gone"]

theorem supplies_liveCustomers :
    ∀ i, liveCustomers.json.Supplies i → ∀ s, i = .name s → s ∈ customerNames := by
  have horders : ∀ i, liveOrders.Supplies i → ∀ s, i = .name s → s ∈ customerNames := by
    have hlist : liveOrders.clauses.ingredients =
        [.name "o", .name "gone", .name "gone", .fragment (.ofText "~")] := rfl
    -- what a query supplies is among its own ingredients, or supplied by a query inside it
    refine forall_supplies ?_ ?_ nofun <;> simp [hlist, customerNames]
  have hcustomers : ∀ i, (liveCustomers.deliver .all).Supplies i →
      ∀ s, i = .name s → s ∈ customerNames := by
    have hlist : (liveCustomers.deliver .all).clauses.ingredients =
        [.name "c", .name "id", .query liveOrders, .name "age", .fragment (.ofText "~")] := rfl
    refine forall_supplies ?_ ?_ nofun
    · simp [hlist, customerNames]
    · simpa [hlist] using horders
  have hlist : liveCustomers.json.clauses.ingredients =
      [.query (liveCustomers.deliver .all), .name "t", .fragment (.ofText jsonText),
        .name "json"] :=
    rfl
  refine forall_supplies ?_ ?_ nofun
  · simp [hlist, customerNames]
  · simpa [hlist] using hcustomers

theorem spares_liveCustomers : liveCustomers.json.Spares '~' where
  dollar := by decide
  digit := by decide
  quote := by decide
  fixed := by
    have hall : (vocabulary.map String.toList).all (fun cs => !cs.contains '~') = true := by
      simp only [vocabulary, List.map_cons, List.map_nil, String.reduceToList]
      decide +kernel
    intro s hs
    simpa using List.all_eq_true.1 hall _ (List.mem_map_of_mem hs)
  quoted s hs := by
    have hall : ∀ t ∈ customerNames, ∀ part ∈ t :: (Text.splitOn '.' t.toList).map String.ofList,
        '~' ∉ (Naming.verbatim.physical part).toList ∧
          '~' ∉ (Naming.snakeCase.physical part).toList := by
      decide +kernel
    cases hs with
    -- the name is one that has been supplied, or a part of such a name between dots
    | @physical t naming h =>
        have hboth : '~' ∉ (Naming.verbatim.physical t).toList ∧
            '~' ∉ (Naming.snakeCase.physical t).toList := by
          cases h with
          | supplied h => exact hall _ (supplies_liveCustomers _ h _ rfl) _ List.mem_cons_self
          | part h hcs =>
              exact hall _ (supplies_liveCustomers _ h _ rfl) _
                (List.mem_cons_of_mem _ (List.mem_map_of_mem hcs))
        cases naming with
        | verbatim => exact hboth.1
        | snakeCase => exact hboth.2
    | generated index => exact Aliases.notMem_nameAt index (by decide) (by decide)
    | fixed => decide +kernel

/-- Everything but the marked default filters is written without the mark. -/
theorem spares_of_writes_liveCustomers :
    ∀ d, liveCustomers.json.Writes d → d.Spares '~' "~" := by
  intro d hd
  rw [← mem_nodes_iff, nodes_liveCustomers] at hd
  simp only [List.mem_cons, List.not_mem_nil, or_false] at hd
  intro f hf
  -- the statement of the rows as JSON, that of the customers, and that of the orders
  rcases hd with rfl | rfl | rfl
  · have hlist : (liveCustomers.json.clauses.unmarked "~").ingredients =
        [.query (liveCustomers.deliver .all), .name "t", .fragment (.ofText jsonText),
          .name "json"] := rfl
    obtain rfl : f = .ofText jsonText := by simpa [hlist] using hf
    rw [Fragment.Lacks, Fragment.pieces_ofText (by decide)]
    simp [jsonText]
  · have hlist : ((liveCustomers.deliver .all).clauses.unmarked "~").ingredients =
        [.name "c", .name "id", .query liveOrders, .name "age"] := rfl
    simp [hlist] at hf
  · have hlist : (liveOrders.clauses.unmarked "~").ingredients =
        [.name "o", .name "gone", .name "gone"] := rfl
    simp [hlist] at hf

theorem default_filters_once_liveCustomers :
    (∃ compiled inCte before behind, ∃ parts : FilterParts .verbatim inCte liveOrders.clauses,
      liveCustomers.json.compile {} = .ok compiled ∧
      compiled.sql = Lexeme.text (before ++ parts.lexemes ++ behind)) ∧
    (∃ inner, Call.IsWrapper liveCustomers liveCustomers.json inner) ∧
    (∃ compiled, liveCustomers.json.compile {} = .ok compiled ∧
      compiled.sql.toList.count '~' = 2) ∧
    ∃ compiled, ∃ slots : List (Slot (Unscoping .verbatim deletedScope liveOrders.clauses)),
      (ofQuery liveOrders "t").compile {} = .ok compiled ∧
      compiled.sql = Lexeme.text (Slot.fill Unscoping.lexemes slots) ∧
      (ofQuery liveOrders.includeDeleted "t").compile {} =
        .ok ⟨Lexeme.text (Slot.fill Unscoping.unscoped slots),
          Lexeme.params (Slot.fill Unscoping.unscoped slots), compiled.guarded⟩ := by
  rcases default_filters_once {} with ⟨hwritten, hbuilt, hmarked, hunscoped⟩
  refine ⟨?written, ?built, ?marked, ?unscoped⟩
  case written =>
    have hwrites : liveCustomers.json.Writes liveOrders.clauses := by
      rw [← mem_nodes_iff, nodes_liveCustomers]
      simp
    obtain ⟨inCte, body, before, behind, -, hsql, -, hfiltered, -⟩ :=
      hwritten liveCustomers.json _ rfl _ hwrites
    rcases hfiltered rfl with ⟨parts, rfl⟩
    exact ⟨_, inCte, before, behind, parts, rfl, hsql⟩
  case built =>
    obtain ⟨-, -, -, hcalls⟩ := hbuilt (Table.named "c").query
      [.scope "tenant" tilde, .filter (.inQuery "id" liveOrders), .orFilter (.isNull "age")]
    exact (hcalls .json).2 rfl
  case marked =>
    refine ⟨_, rfl, ?_⟩
    rw [hmarked liveCustomers.json _ rfl '~' "~" spares_liveCustomers (by decide)
      spares_of_writes_liveCustomers, nodes_liveCustomers]
    rfl
  case unscoped =>
    obtain ⟨slots, hscoped, hdropped⟩ :=
      hunscoped liveOrders deletedScope (.inside { source := .query none "t" } [] .here) _ rfl
    exact ⟨_, slots, rfl, congrArg Compiled.sql hscoped, hdropped⟩

end Query
end ParamSql

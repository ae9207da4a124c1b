import ParamSql.Proofs.Sql.Chain
import ParamSql.Proofs.Sql.Within
import ParamSql.Query.Table

/-!
# Capture — generated names beside those of the caller

A common table expression hides a table of its name from the statements behind it.  Generated names
keep clear of those by which the statements of a chain know their own rows, and of no others: a
table that is joined, or that stands in a query inside a statement, can be hidden.

* `Clauses.relations`, `Query.Mentions` — the tables and common table expressions that are named;
* `Query.mem_generatedNames_iff` — which names are generated;
* `Query.names_kept_clear` — for which of the names a query mentions this is so;
* `Query.joinedWithQ_hidden` — a joined table that is hidden by an appended statement.
-/

namespace ParamSql

/-! ## Names of relations -/

/-- The joined table, without its schema. -/
def JoinSource.relation? {Q : Type} : JoinSource Q → Option String
  | .table path _ => some (JoinSource.table (Q := Q) path none).reference
  | .query _ _ => none

/-- The tables and common table expressions that a statement names itself, without their schemas.
An insertion has no use for joins. -/
def Clauses.relations (c : Clauses Query) : List String :=
  (c.table?.map TableInfo.name).toList ++
    (match c.mutation with
      | some (.insert _ _) => []
      | _ => c.joins.filterMap fun j => j.source.relation?) ++
    c.ctes.map Cte.name

theorem Clauses.reference?_of_table? {c : Clauses Query} {t : TableInfo} (h : c.table? = some t) :
    c.reference? = some t.name := by
  unfold table? at h
  unfold reference?
  split at h
  case h_1 u hu =>
    cases h
    rw [hu]
  case h_2 => cases h

namespace Query

/-- A table or a common table expression is named somewhere in what is written for a query. -/
def Mentions (q : Query) (name : String) : Prop :=
  ∃ c, q.Writes c ∧ name ∈ c.relations

/-! ## Generated names -/

/-- Of the names that are not reserved, the first ones are generated, as many as there are
statements. -/
theorem mem_generatedNames_iff {q : Query} {name : String} : name ∈ q.generatedNames ↔
    ∃ index, (0 < index ∧ Aliases.nameAt index ∉ reservedNames q) ∧
      Nat.count (fun i => 0 < i ∧ Aliases.nameAt i ∉ reservedNames q) index ≤
        q.dependents.length ∧ name = Aliases.nameAt index := by
  have hfree : ∀ index, ((reservedNames q).foldl Aliases.reserve .empty).IsFree index ↔
      0 < index ∧ Aliases.nameAt index ∉ reservedNames q :=
    Aliases.isFree_reserved (reservedNames q)
  have hcount : ∀ index,
      Nat.count ((reservedNames q).foldl Aliases.reserve .empty).IsFree index =
        Nat.count (fun i => 0 < i ∧ Aliases.nameAt i ∉ reservedNames q) index := by
    intro index
    -- the same indices are free, and so there are as many of them below any index
    induction index with
    | zero => rfl
    | succ index ih => simp only [Nat.count_succ, ih, hfree]
  simp only [generatedNames, Aliases.mem_generate_iff, hfree, hcount, Nat.lt_succ_iff]

/-- Reserved are the names that the statements of a chain have of their own. -/
theorem mem_reservedNames_iff {q : Query} {name : String} :
    name ∈ reservedNames q ↔ ∃ c ∈ q.members, name ∈ ownNames c := by
  rw [members_eq, reservedNames, List.mem_append, List.mem_flatMap]
  constructor
  · rintro (hmain | ⟨d, hd, hname⟩)
    · exact ⟨q.clauses, by simp, hmain⟩
    · exact ⟨d.clauses, List.mem_append_left _ (List.mem_map_of_mem hd), hname⟩
  · rintro ⟨c, hc, hname⟩
    rcases List.mem_append.1 hc with hdependent | hmain
    · rcases List.mem_map.1 hdependent with ⟨d, hd, rfl⟩
      exact .inr ⟨d, hd, hname⟩
    · rw [List.mem_singleton.1 hmain] at hname
      exact .inl hname

theorem notMem_generatedNames {q : Query} {c : Clauses Query} (hc : c ∈ q.members) {name : String}
    (hname : name ∈ ownNames c) : name ∉ q.generatedNames := by
  intro hmem
  rcases mem_generatedNames_iff.1 hmem with ⟨index, ⟨-, hfree⟩, -, rfl⟩
  exact hfree (mem_reservedNames_iff.2 ⟨c, hc, hname⟩)

/-! ## Names in the text of a chain -/

/-- The names in the text of a chain keep clear of the tables from which its statements take their
rows and of the common table expressions that these define.  They keep clear of no other name that
is mentioned: what is not a name of the statements' own is among them as soon as it has the form of
a generated one and its turn comes. -/
theorem names_kept_clear (options : CompileOptions) {q : Query} {compiled : Compiled}
    (happended : q.appended ≠ []) (h : q.compile options = .ok compiled) :
    ∃ (links : List Link) (main : Link),
      compiled.sql = "WITH " ++ ", ".intercalate (Link.texts 1 (links ++ [main])) ++
        " SELECT * FROM " ++ main.quoted ++ Link.guardTexts links ∧
      (∀ c ∈ q.members,
        (∀ t, c.table? = some t → t.name ∉ (links ++ [main]).map Link.name) ∧
        ∀ cte ∈ c.ctes, cte.name ∉ (links ++ [main]).map Link.name) ∧
      ∀ name, name ∈ (links ++ [main]).map Link.name ↔
        (∀ c ∈ q.members, name ∉ ownNames c) ∧ ∃ index, 0 < index ∧ name = Aliases.nameAt index ∧
          Nat.count (fun i => 0 < i ∧ ∀ c ∈ q.members, Aliases.nameAt i ∉ ownNames c) index ≤
            q.dependents.length := by
  rcases exists_links_of_compile happended h with ⟨links, main, rfl, -, -, -, -, hnames, -⟩
  refine ⟨links, main, Link.text_chain links main, ?own, ?every⟩
  case own =>
    intro c hc
    rw [hnames]
    -- a statement's own names are those of its table and of its common table expressions
    constructor
    · intro t ht
      exact notMem_generatedNames hc
        (List.mem_append_left _ (by simp [Clauses.reference?_of_table? ht]))
    · intro cte hcte
      exact notMem_generatedNames hc (List.mem_append_right _ (List.mem_map_of_mem hcte))
  case every =>
    intro name
    have hreserved : ∀ name, name ∉ reservedNames q ↔ ∀ c ∈ q.members, name ∉ ownNames c := by
      intro name
      rw [mem_reservedNames_iff, not_exists]
      exact forall_congr' fun c => not_and
    rw [hnames, mem_generatedNames_iff]
    simp only [hreserved]
    constructor
    · rintro ⟨index, ⟨hpositive, hfree⟩, hcount, rfl⟩
      exact ⟨hfree, index, hpositive, rfl, hcount⟩
    · rintro ⟨hfree, index, hpositive, rfl, hcount⟩
      exact ⟨index, ⟨hpositive, hfree⟩, hcount, rfl⟩

/-- The rows of a table named as the first generated name would be. -/
def besideQ : Query :=
  (Table.named "q").query.append (Table.named "b").query false

theorem names_kept_clear_besideQ :
    ∃ links main, besideQ.compile {} = .ok ⟨"WITH " ++ ", ".intercalate
        (Link.texts 1 (links ++ [main])) ++ " SELECT * FROM " ++ main.quoted ++
          Link.guardTexts links, [], false⟩ ∧
      "q" ∉ (links ++ [main]).map Link.name := by
  have hcompile : besideQ.compile {} = .ok
      ⟨"WITH \"q2\" AS (SELECT * FROM \"b\"), \"q3\" AS (SELECT * FROM \"q\") " ++
        "SELECT * FROM \"q3\"", [], false⟩ := rfl
  obtain ⟨links, main, hsql, hown, -⟩ :=
    names_kept_clear {} (by simp [besideQ, append, appended]) hcompile
  refine ⟨links, main, hsql ▸ hcompile, ?_⟩
  exact (hown besideQ.clauses (.tail _ (.head _))).1 _ rfl

/-- The rows of a table and those of the same keys in a table named `q`, behind another query. -/
def joinedWithQ : Query :=
  ((Table.named "a").query.joinTable .inner "q" (some (.columnsEq "q.id" "a.id"))).append
    (Table.named "b").query false

/-- The joined table is not read any more: the appended statement has taken its name. -/
theorem joinedWithQ_hidden :
    joinedWithQ.Mentions "q" ∧ "q" ∈ joinedWithQ.generatedNames ∧
      joinedWithQ.compile {} =
        .ok ⟨"WITH \"q\" AS (SELECT * FROM \"b\"), \"q2\" AS (SELECT \"a\".* " ++
          "FROM \"a\" JOIN \"q\" ON \"q\".\"id\" = \"a\".\"id\") SELECT * FROM \"q2\"",
          [], false⟩ := by
  refine ⟨⟨joinedWithQ.clauses, ⟨joinedWithQ.clauses, ?_, .self⟩, ?_⟩, ?_, ?_⟩
  · exact .tail _ (.head _)
  · decide
  · decide
  · rfl

end Query
end ParamSql

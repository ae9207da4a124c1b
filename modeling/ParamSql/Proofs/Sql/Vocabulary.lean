import ParamSql.Sql.Compiled

/-!
# Vocabulary — the fixed texts of statements

Everything in a statement that is neither a quoted name nor supplied by the caller is one of
finitely many texts.

* `vocabulary` — all of them;
* `starters`, `openers`, `closers`, `constants`, `bounds` — the same texts by where they stand;
  `CompareOp.sql_mem` and the like find the keywords among them;
* `plain_of_mem_vocabulary` — none is empty, begins with a digit or has a `$` in it.
-/

namespace ParamSql

/-- The texts that statements are written with. -/
def vocabulary : List String :=
  [" ", "(", ")", ", ", ".", ".*", "*", ") ", " (",
    -- conditions
    " = ", " <> ", " > ", " >= ", " < ", " <= ", " LIKE ", " ILIKE ", " NOT LIKE ", " NOT ILIKE ",
    " IS NULL", " IS NOT NULL", " IN (", " NOT IN (", "EXISTS (", "NOT EXISTS (", " BETWEEN ",
    " NOT BETWEEN ", " AND ", " OR ", "NOT (", "TRUE", "FALSE",
    -- rows
    "WITH ", "WITH RECURSIVE ", "SELECT ", "DISTINCT ", "DISTINCT ON (", " AS ", "EXISTS ",
    " OVER ", "count(", "sum(", "avg(", "min(", "max(", "count(DISTINCT ", "sum(DISTINCT ",
    "avg(DISTINCT ", "min(DISTINCT ", "max(DISTINCT ", " FROM ", " JOIN ", " LEFT JOIN ",
    " RIGHT JOIN ", " FULL JOIN ", " CROSS JOIN ", " ON ", " WHERE ", " GROUP BY ", " HAVING ",
    " WINDOW ", "PARTITION BY ", "ORDER BY ", " UNION ", " UNION ALL ", " INTERSECT ",
    " INTERSECT ALL ", " EXCEPT ", " EXCEPT ALL ", " ORDER BY ", " ASC", " DESC", " NULLS FIRST",
    " NULLS LAST", " LIMIT ", " OFFSET ", " FOR UPDATE", " FOR NO KEY UPDATE", " FOR SHARE",
    " FOR KEY SHARE", " OF ", " NOWAIT", " SKIP LOCKED",
    -- changes
    "INSERT INTO ", ") VALUES ", " DEFAULT VALUES", "DEFAULT", " ON CONFLICT", " DO NOTHING",
    " DO UPDATE SET ", " = EXCLUDED.", "UPDATE ", " SET ", " + ", " - ", " = now()", "DELETE FROM ",
    " USING ", " RETURNING ", " RETURNING 1",
    -- appended statements
    " SELECT * FROM ", "(CASE WHEN NOT EXISTS (SELECT 1 FROM ",
    ") THEN (SELECT 'pgquery:not-found')::int END) IS NULL"]

/-- Whether a text has no `$` and begins with something else than a digit. -/
def isPlainText (cs : List Char) : Bool :=
  !cs.contains '$' && cs.head?.any (!·.isDigit)

theorem vocabulary_all : (vocabulary.map String.toList).all isPlainText = true := by
  simp only [vocabulary, List.map_cons, List.map_nil, String.reduceToList]
  decide +kernel

theorem plain_of_mem_vocabulary {s : String} (hs : s ∈ vocabulary) :
    '$' ∉ s.toList ∧ ∃ c rest, s.toList = c :: rest ∧ c.isDigit = false := by
  have hplain : isPlainText s.toList = true :=
    List.all_eq_true.1 vocabulary_all _ (List.mem_map_of_mem hs)
  cases htext : s.toList with
  | nil =>
      rw [htext] at hplain
      cases hplain
  | cons c rest =>
      simpa [isPlainText, htext] using hplain

/-! ## Where a text stands

What stands next to a text must not run into it.  Something is always between: a blank, a bracket or
a comma, on one side or on the other. -/

/-- Begin with a word, and have something behind them that may begin with one. -/
def starters : List String :=
  ["SELECT ", "DISTINCT ", "DISTINCT ON (", "WITH ", "WITH RECURSIVE ", "INSERT INTO ", "UPDATE ",
    "DELETE FROM ", "PARTITION BY ", "ORDER BY ", "NOT (", "EXISTS ", "EXISTS (", "NOT EXISTS (",
    "count(", "sum(", "avg(", "min(", "max(", "count(DISTINCT ", "sum(DISTINCT ", "avg(DISTINCT ",
    "min(DISTINCT ", "max(DISTINCT "]

/-- Stand between two parts. -/
def openers : List String :=
  [" ", "(", ", ", ") ", " (", " = ", " <> ", " > ", " >= ", " < ", " <= ", " LIKE ", " ILIKE ",
    " NOT LIKE ", " NOT ILIKE ", " IN (", " NOT IN (", " BETWEEN ", " NOT BETWEEN ", " AND ",
    " OR ", " AS ", " OVER ", " FROM ", " JOIN ", " LEFT JOIN ", " RIGHT JOIN ", " FULL JOIN ",
    " CROSS JOIN ", " ON ", " WHERE ", " GROUP BY ", " HAVING ", " WINDOW ", " UNION ",
    " UNION ALL ", " INTERSECT ", " INTERSECT ALL ", " EXCEPT ", " EXCEPT ALL ", " ORDER BY ",
    " OF ", ") VALUES ", " DO UPDATE SET ", " = EXCLUDED.", " SET ", " + ", " - ", " USING ",
    " RETURNING ", " SELECT * FROM ", "(CASE WHEN NOT EXISTS (SELECT 1 FROM "]

/-- Stand behind a part and have nothing behind them that begins with a word. -/
def closers : List String :=
  [")", " IS NULL", " IS NOT NULL", " ASC", " DESC", " NULLS FIRST", " NULLS LAST", " FOR UPDATE",
    " FOR NO KEY UPDATE", " FOR SHARE", " FOR KEY SHARE", " NOWAIT", " SKIP LOCKED",
    " DEFAULT VALUES", " ON CONFLICT", " DO NOTHING", " = now()", " RETURNING 1",
    ") THEN (SELECT 'pgquery:not-found')::int END) IS NULL"]

/-- Stand alone. -/
def constants : List String :=
  ["TRUE", "FALSE", "DEFAULT", "*"]

/-- Stand ahead of a number of rows. -/
def bounds : List String :=
  [" LIMIT ", " OFFSET "]

theorem starters_subset : starters ⊆ vocabulary := by
  simp only [List.subset_def]
  decide +kernel

theorem openers_subset : openers ⊆ vocabulary := by
  simp only [List.subset_def]
  decide +kernel

theorem closers_subset : closers ⊆ vocabulary := by
  simp only [List.subset_def]
  decide +kernel

theorem constants_subset : constants ⊆ vocabulary := by
  simp only [List.subset_def]
  decide +kernel

theorem bounds_subset : bounds ⊆ vocabulary := by
  simp only [List.subset_def]
  decide +kernel

/-! ## Keywords -/

theorem CompareOp.sql_mem (op : CompareOp) : " " ++ op.sql ++ " " ∈ openers := by
  cases op <;> simp [openers, sql]

theorem Direction.sql_mem (d : Direction) : " " ++ d.sql ∈ closers := by
  cases d <;> simp [closers, sql]

theorem Nulls.sql_mem (n : Nulls) : " " ++ n.sql ∈ closers := by
  cases n <;> simp [closers, sql]

theorem JoinKind.sql_mem (k : JoinKind) : " " ++ k.sql ++ " " ∈ openers := by
  cases k <;> simp [openers, sql]

theorem LockMode.sql_mem (m : LockMode) : " " ++ m.sql ∈ closers := by
  cases m <;> simp [closers, sql]

theorem WaitPolicy.sql_mem (w : WaitPolicy) : " " ++ w.sql ∈ closers := by
  cases w <;> simp [closers, sql]

theorem SetOpKind.sql_mem (k : SetOpKind) : " " ++ k.sql ++ " " ∈ openers := by
  cases k <;> simp [openers, sql]

theorem Aggregate.sql_mem (f : Aggregate) (isDistinct : Bool) :
    (f.sql ++ "(" ++ if isDistinct then "DISTINCT " else "") ∈ starters := by
  cases f <;> cases isDistinct <;> simp [starters, sql]

end ParamSql

import Mathlib.Data.List.Nodup
import ParamSql.Proofs.Query.Call
import ParamSql.Proofs.Query.History

/-!
# Entries — the parts of a query that have names

Default filters, windows and common table expressions have names, and assignments have columns.
However a query is built, no two of them share one: a new entry of a name takes the place of the
older one, or comes last in its stead.

* `Keyed.Replaces`, `Keyed.MovesLast`, `Keyed.Drops` — what becomes of the entries of a list when
  one is added or removed, and of all the others;
* `Call.entries_apply` — the named parts of the query that a call makes;
* `Record.IsBuilt`, `Table.IsBuilt`, `Query.IsBuilt` — what is reached by building;
* `Query.entries_stay_distinct` — no two entries of what is built have one name, and no call reaches
  beyond the entry it names.
-/

namespace ParamSql

/-! ## Lists of entries with a key -/

namespace Keyed

variable {α : Type} {key : α → String} {a : α} {k : String} {entries front back : List α}

/-- No two entries have one key. -/
def KeysDiffer (key : α → String) (entries : List α) : Prop :=
  (entries.map key).Nodup

/-- An entry is added: it takes the place of the older one of its key, and is the last one if there
is none.  All others stay as and where they are. -/
structure Replaces (key : α → String) (a : α) (before after : List α) : Prop where
  old : ∀ front b back, before = front ++ b :: back → key b = key a → after = front ++ a :: back
  new : key a ∉ before.map key → after = before ++ [a]

/-- An entry is added last, and the older one of its key is removed.  All others stay as they are,
in their order. -/
structure MovesLast (key : α → String) (a : α) (before after : List α) : Prop where
  old : ∀ front b back, before = front ++ b :: back → key b = key a → after = front ++ back ++ [a]
  new : key a ∉ before.map key → after = before ++ [a]

/-- The entry of a key is removed, if there is one.  All others stay as they are, in their order. -/
structure Drops (key : α → String) (k : String) (before after : List α) : Prop where
  old : ∀ front b back, before = front ++ b :: back → key b = k → after = front ++ back
  absent : k ∉ before.map key → after = before

theorem keysDiffer_nil : KeysDiffer key [] :=
  List.nodup_nil

/-- Neither before nor behind an entry there is another one of its key. -/
theorem KeysDiffer.notMem {b : α} (h : KeysDiffer key (front ++ b :: back)) :
    key b ∉ front.map key ∧ key b ∉ back.map key := by
  rw [KeysDiffer, List.map_append, List.map_cons, List.nodup_middle, List.nodup_cons,
    List.mem_append, not_or] at h
  exact h.1

/-! ### Adding in the place of an older entry -/

theorem put_of_notMem (h : key a ∉ entries.map key) : put key a entries = entries ++ [a] := by
  induction entries with
  | nil => rfl
  | cons b entries ih =>
      -- the key is neither that of the first entry nor among the others
      rw [List.map_cons, List.mem_cons, not_or] at h
      rw [put, if_neg (Ne.symm h.1), ih h.2, List.cons_append]

theorem put_middle {b : α} (hfront : key a ∉ front.map key) (hb : key b = key a) :
    put key a (front ++ b :: back) = front ++ a :: back := by
  induction front with
  | nil => rw [List.nil_append, put, if_pos hb, List.nil_append]
  | cons c front ih =>
      rw [List.map_cons, List.mem_cons, not_or] at hfront
      rw [List.cons_append, put, if_neg (Ne.symm hfront.1), ih hfront.2, List.cons_append]

theorem replaces_put (h : KeysDiffer key entries) (a : α) :
    Replaces key a entries (put key a entries) where
  old front b back hentries hb := by
    subst hentries
    exact put_middle (hb ▸ h.notMem.1) hb
  new := put_of_notMem

theorem KeysDiffer.put (h : KeysDiffer key entries) (a : α) :
    KeysDiffer key (put key a entries) := by
  rw [KeysDiffer, map_put]
  split
  -- an older entry is replaced by one of its key, so that the keys stay as they are
  · exact h
  · rename_i ha
    exact List.nodup_append.2 ⟨h, List.nodup_singleton _, by grind⟩

/-! ### Removing, and adding last -/

theorem remove_of_notMem (h : k ∉ entries.map key) : remove key k entries = entries := by
  refine List.filter_eq_self.2 fun b hb => decide_eq_true fun hk => h ?_
  exact List.mem_map.2 ⟨b, hb, hk⟩

theorem remove_middle {b : α} (hfront : k ∉ front.map key) (hback : k ∉ back.map key)
    (hb : key b = k) :
    remove key k (front ++ b :: back) = front ++ back := by
  have hsplit : remove key k (front ++ b :: back) = remove key k front ++ remove key k back := by
    simp [remove, hb]
  rw [hsplit, remove_of_notMem hfront, remove_of_notMem hback]

theorem notMem_remove : k ∉ (remove key k entries).map key := by
  simp [remove]

theorem KeysDiffer.remove (h : KeysDiffer key entries) (k : String) :
    KeysDiffer key (remove key k entries) :=
  List.Nodup.sublist (List.filter_sublist.map key) h

theorem drops_remove (h : KeysDiffer key entries) (k : String) :
    Drops key k entries (remove key k entries) where
  old front b back hentries hb := by
    subst hentries hb
    exact remove_middle h.notMem.1 h.notMem.2 rfl
  absent := remove_of_notMem

theorem movesLast_putLast (h : KeysDiffer key entries) (a : α) :
    MovesLast key a entries (putLast key a entries) where
  old front b back hentries hb := by
    rw [putLast, (drops_remove h (key a)).old front b back hentries hb]
  new ha := by
    rw [putLast, (drops_remove h (key a)).absent ha]

theorem KeysDiffer.putLast (h : KeysDiffer key entries) (a : α) :
    KeysDiffer key (putLast key a entries) := by
  rw [KeysDiffer, Keyed.putLast, List.map_append, List.map_singleton]
  -- the older entry of the key has been removed before the new one comes last
  have hnew : key a ∉ (Keyed.remove key (key a) entries).map key := notMem_remove
  exact List.nodup_append.2 ⟨h.remove (key a), List.nodup_singleton _, by grind⟩

end Keyed

open Keyed

/-! ## Records and tables -/

section Records

variable {Q : Type}

/-- The record has been made by assignments, one after another. -/
def Record.IsBuilt (r : Record Q) : Prop :=
  ∃ history, r = Record.ofHistory history

theorem Record.IsBuilt.keysDiffer {r : Record Q} (h : r.IsBuilt) :
    KeysDiffer Assignment.column r.assignments := by
  rcases h with ⟨history, rfl⟩
  -- the columns of a record are those of the assignments, each one once
  have hcolumns := nodup_eraseDups (history.map Prod.fst)
  rw [← Record.columns_ofHistory] at hcolumns
  exact hcolumns

/-- The records of a change: what is inserted, what is assigned to rows in conflict, and what is
assigned in an update. -/
def OnConflict.records (c : OnConflict Q) : List (Record Q) :=
  match c.action with
  | .update r => [r]
  | _ => []

def InsertRows.listed : InsertRows Q → List (Record Q)
  | .records rs => rs
  | .query _ _ => []

def Mutation.records : Mutation Q → List (Record Q)
  | .insert rows onConflict => rows.listed ++ onConflict.toList.flatMap OnConflict.records
  | .update r => [r]
  | .delete _ => []

end Records

/-- The table has been made of its name by further calls. -/
inductive Table.IsBuilt : Table → Prop
  | named (name : String) : IsBuilt (named name)
  | inSchema {t : Table} (h : IsBuilt t) (schema : String) : IsBuilt (t.inSchema schema)
  | withColumns {t : Table} (h : IsBuilt t) (columns : List String) :
      IsBuilt (t.withColumns columns)
  | withNaming {t : Table} (h : IsBuilt t) (naming : Naming) : IsBuilt (t.withNaming naming)
  | scope {t : Table} (h : IsBuilt t) (name : String) (condition : Condition) :
      IsBuilt (t.scope name condition)
  | softDelete {t : Table} (h : IsBuilt t) (column : String) : IsBuilt (t.softDelete column)

theorem Table.IsBuilt.keysDiffer {t : Table} (h : t.IsBuilt) : KeysDiffer Scope.name t.scopes := by
  induction h with
  | named name => exact keysDiffer_nil
  | inSchema _ schema ih => exact ih
  | withColumns _ columns ih => exact ih
  | withNaming _ naming ih => exact ih
  | scope _ name condition ih => exact ih.putLast _
  | softDelete _ column ih => exact ih.putLast _

/-! ## Calls -/

namespace Query
namespace Call

variable {q : Query} {call : Call}

/-- A new statement selects from its source, and has nothing else. -/
theorem exists_of_wraps (h : call.wraps q = true) :
    ∃ source items shape, call.apply q = .of { source, select := items, shape } [] := by
  cases call with
  | count =>
      rw [apply, count_of_regrouped h]
      exact ⟨_, _, _, rfl⟩
  | ofQuery name => exact ⟨_, _, _, rfl⟩
  | existence => exact ⟨_, _, _, rfl⟩
  | json => exact ⟨_, _, _, rfl⟩
  | _ => cases h

/-- The windows of the query that a call makes. -/
def windows (q : Query) : Call → List Window
  | .window w => put Window.name w q.clauses.windows
  | .clear .windows => []
  | call => if call.wraps q then [] else q.clauses.windows

/-- The common table expressions of the query that a call makes. -/
def ctes (q : Query) : Call → List (Cte Query)
  | .withCte cte => putLast Cte.name cte q.clauses.ctes
  | .clear .ctes => []
  | call => if call.wraps q then [] else q.clauses.ctes

/-- The change of the query that a call makes. -/
def mutation (q : Query) : Call → Option (Mutation Query)
  | .mutate m => some m
  | .onConflict columns action =>
      match q.clauses.mutation with
      | some (.insert rows _) => some (.insert rows (some ⟨columns, action⟩))
      | m => m
  | .assign column value =>
      match q.clauses.mutation with
      | some (.update r) => some (.update (r.assign column value))
      | _ => some (.update (Record.empty.assign column value))
  | call => if call.wraps q then none else q.clauses.mutation

/-- The named parts of the query that a call makes: one kind of them is edited by a call, and the
others are kept, unless they are dropped by a new statement. -/
theorem entries_apply (call : Call) (q : Query) :
    (call.apply q).clauses.scopes = call.scopes q ∧
      (call.apply q).clauses.windows = call.windows q ∧
      (call.apply q).clauses.ctes = call.ctes q ∧
      (call.apply q).clauses.mutation = call.mutation q := by
  refine ⟨scopes_apply call q, ?_⟩
  -- only a call that wraps the query begins with a new statement
  cases hwraps : call.wraps q with
  | true =>
      rcases exists_of_wraps hwraps with ⟨source, items, shape, happly⟩
      rw [happly]
      cases call with
      | count => exact ⟨(if_pos hwraps).symm, (if_pos hwraps).symm, (if_pos hwraps).symm⟩
      | ofQuery name => exact ⟨rfl, rfl, rfl⟩
      | existence => exact ⟨rfl, rfl, rfl⟩
      | json => exact ⟨rfl, rfl, rfl⟩
      | _ => cases hwraps
  | false =>
      -- every other call edits one part of the statement, or none
      have hkept : call.wraps q ≠ true := by simp [hwraps]
      cases call with
      | onConflict columns action =>
          rw [apply, Query.onConflict, mutation]
          rcases hm : q.clauses.mutation with _ | (_ | _ | _)
          · exact ⟨rfl, rfl, hm⟩
          · exact ⟨rfl, rfl, rfl⟩
          · exact ⟨rfl, rfl, hm⟩
          · exact ⟨rfl, rfl, hm⟩
      | assign column value =>
          rw [apply, Query.assign, mutation]
          rcases q.clauses.mutation with _ | (_ | _ | _) <;> exact ⟨rfl, rfl, rfl⟩
      | clear part => cases part <;> exact ⟨rfl, rfl, rfl⟩
      | count =>
          rw [apply, count_of_plain hwraps]
          exact ⟨(if_neg hkept).symm, (if_neg hkept).symm, (if_neg hkept).symm⟩
      | ofQuery name => cases hwraps
      | existence => cases hwraps
      | json => cases hwraps
      | _ => exact ⟨rfl, rfl, rfl⟩

/-- The records that are supplied with a call. -/
def records : Call → List (Record Query)
  | .mutate m => m.records
  | .onConflict columns action => (OnConflict.mk columns action).records
  | _ => []

end Call
end Query

/-- No two default filters have one name, no two windows, and no two common table expressions; and
no record has two assignments to one column. -/
structure Clauses.NamesDiffer {Q : Type} (c : Clauses Q) : Prop where
  scopes : KeysDiffer Scope.name c.scopes
  windows : KeysDiffer Window.name c.windows
  ctes : KeysDiffer Cte.name c.ctes
  records : ∀ m ∈ c.mutation, ∀ r ∈ m.records, KeysDiffer Assignment.column r.assignments

theorem Clauses.NamesDiffer.of_resembles {Q : Type} {c d : Clauses Q} (h : d.NamesDiffer)
    (hc : c.Resembles d) : c.NamesDiffer := by
  rw [Clauses.Resembles] at hc
  rw [hc]
  exact { h with }

namespace Query
namespace Call

variable {q : Query} {call : Call}

theorem keysDiffer_scopes (h : q.clauses.NamesDiffer) (call : Call) :
    KeysDiffer Scope.name (call.scopes q) := by
  unfold scopes
  split
  · exact h.scopes.putLast _
  · exact h.scopes.remove _
  · split
    · exact keysDiffer_nil
    · exact h.scopes

theorem keysDiffer_windows (h : q.clauses.NamesDiffer) (call : Call) :
    KeysDiffer Window.name (call.windows q) := by
  unfold windows
  split
  · exact h.windows.put _
  · exact keysDiffer_nil
  · split
    · exact keysDiffer_nil
    · exact h.windows

theorem keysDiffer_ctes (h : q.clauses.NamesDiffer) (call : Call) :
    KeysDiffer Cte.name (call.ctes q) := by
  unfold ctes
  split
  · exact h.ctes.putLast _
  · exact keysDiffer_nil
  · split
    · exact keysDiffer_nil
    · exact h.ctes

/-- Behind a call, there are the records of before and the ones supplied with it, perhaps with one
more assignment. -/
theorem keysDiffer_records (h : q.clauses.NamesDiffer)
    (hgiven : ∀ r ∈ call.records, KeysDiffer Assignment.column r.assignments) :
    ∀ m ∈ call.mutation q, ∀ r ∈ m.records, KeysDiffer Assignment.column r.assignments := by
  unfold mutation
  split
  case h_1 m =>
    rintro _ ⟨⟩
    exact hgiven
  case h_2 columns action =>
    split
    case h_1 rows conflict hm =>
      rintro _ ⟨⟩
      -- what is inserted stays, and what is done in conflicts is supplied with the call
      have hrows := (List.forall_mem_append.1 (h.records _ hm)).1
      have hconflict : ∀ r ∈ (OnConflict.mk columns action).records,
          KeysDiffer Assignment.column r.assignments := hgiven
      exact List.forall_mem_append.2 ⟨hrows, by simpa using hconflict⟩
    case h_2 => exact h.records
  case h_3 column value =>
    split
    case h_1 r hm =>
      rintro _ ⟨⟩
      -- one assignment more, to a record that has no two for one column
      exact List.forall_mem_singleton.2 ((h.records _ hm r List.mem_cons_self).put _)
    case h_2 =>
      rintro _ ⟨⟩
      exact List.forall_mem_singleton.2 (keysDiffer_nil.put _)
  case h_4 =>
    split
    · rintro _ ⟨⟩
    · exact h.records

/-- A call keeps names apart. -/
theorem namesDiffer_apply (h : q.clauses.NamesDiffer)
    (hgiven : ∀ r ∈ call.records, KeysDiffer Assignment.column r.assignments) :
    (call.apply q).clauses.NamesDiffer := by
  rcases entries_apply call q with ⟨hscopes, hwindows, hctes, hmutation⟩
  refine ⟨?_, ?_, ?_, ?_⟩
  · rw [hscopes]
    exact keysDiffer_scopes h call
  · rw [hwindows]
    exact keysDiffer_windows h call
  · rw [hctes]
    exact keysDiffer_ctes h call
  · rw [hmutation]
    exact keysDiffer_records h hgiven

end Call

/-! ## Queries -/

/-- The query has been made of a source or a table by calls, and so have the queries supplied with
the calls; so have the records. -/
inductive IsBuilt : Query → Prop
  | source {s : Source Query} (hgiven : ∀ r, .query r ∈ s.ingredients → IsBuilt r) :
      IsBuilt (ofSource s)
  | table {t : Table} (h : t.IsBuilt)
      (hgiven : ∀ s ∈ t.scopes, ∀ r, .query r ∈ s.ingredients → IsBuilt r) : IsBuilt t.query
  | call {q : Query} (call : Call) (h : IsBuilt q) (hgiven : ∀ r, .query r ∈ call.given → IsBuilt r)
      (hrecords : ∀ r ∈ call.records, r.IsBuilt) : IsBuilt (call.apply q)

/-- With most calls, neither queries nor records are supplied. -/
theorem IsBuilt.bare {q : Query} (call : Call) (h : q.IsBuilt) (hgiven : call.given = [])
    (hrecords : call.records = []) : (call.apply q).IsBuilt :=
  .call call h (by simp [hgiven]) (by simp [hrecords])

theorem IsBuilt.run {q : Query} (h : q.IsBuilt) {calls : List Call}
    (hgiven : ∀ call ∈ calls, ∀ r, .query r ∈ call.given → IsBuilt r)
    (hrecords : ∀ call ∈ calls, ∀ r ∈ call.records, r.IsBuilt) : (q.run calls).IsBuilt := by
  induction calls generalizing q with
  | nil => exact h
  | cons call calls ih =>
      rw [List.forall_mem_cons] at hgiven hrecords
      exact ih (.call call h hgiven.1 hrecords.1) hgiven.2 hrecords.2

/-- No two entries of a statement in a query that has been built have one name. -/
theorem IsBuilt.namesDiffer {q : Query} (h : q.IsBuilt) {d : Clauses Query} (hd : q.Holds d) :
    d.NamesDiffer := by
  -- by induction on the way the query is built; its own statement is the last one that has been
  -- edited
  induction h generalizing d with
  | @source s _ ih =>
      rcases holds_iff.1 hd with rfl | ⟨r, hr, hd⟩ | ⟨a, ha, -⟩
      · exact ⟨keysDiffer_nil, keysDiffer_nil, keysDiffer_nil, by rintro _ ⟨⟩⟩
      · exact ih r (by simpa [ofSource, clauses, Clauses.ingredients] using hr) hd
      · cases ha
  | @table t ht _ ih =>
      rcases holds_iff.1 hd with rfl | ⟨r, hr, hd⟩ | ⟨a, ha, -⟩
      · exact ⟨ht.keysDiffer, keysDiffer_nil, keysDiffer_nil, by rintro _ ⟨⟩⟩
      · have hscope : ∃ s ∈ t.scopes, .query r ∈ s.ingredients := by
          simpa [Table.query, clauses, Clauses.ingredients, Source.ingredients,
            TableInfo.ingredients] using hr
        rcases hscope with ⟨s, hs, hr⟩
        exact ih s hs r hr hd
      · cases ha
  | @call q call _ _ hrecords ihquery ihgiven =>
      -- the statement is that of the call, or in a query supplied with it, or was there before
      rcases Call.resembles_of_holds hd with rfl | ⟨r, hr, hd⟩ | ⟨e, he, hde⟩
      · have hown := ihquery (holds_iff.2 (.inl rfl))
        exact Call.namesDiffer_apply hown fun r hr => (hrecords r hr).keysDiffer
      · exact ihgiven r hr hd
      · exact (ihquery he).of_resembles hde

theorem IsBuilt.limitOne {q : Query} (h : q.IsBuilt) : q.limitOne.IsBuilt := by
  unfold Query.limitOne
  split
  · exact h
  · exact .bare (.limit 1) h rfl rfl

theorem IsBuilt.onlyColumn {q : Query} (h : q.IsBuilt) (column : String) :
    (q.onlyColumn column).IsBuilt := by
  have hitem : ∀ r : Query,
      .query r ∉ (SelectItem.ofColumn column : SelectItem Query).ingredients := by
    simp [SelectItem.ofColumn, SelectItem.ingredients]
  have hreturned : (q.returning [column]).IsBuilt := by
    refine .call (.returning [column]) h (fun r hr => absurd hr ?_) (List.forall_mem_nil _)
    simpa [Call.given] using hitem r
  have hselected : (q.select [.ofColumn column]).IsBuilt := by
    refine .call (.select [.ofColumn column]) h (fun r hr => absurd hr ?_) (List.forall_mem_nil _)
    simpa [Call.given] using hitem r
  cases hm : q.clauses.mutation.isSome with
  | true => simpa [Query.onlyColumn, Query.returning, modify, hm] using hreturned
  | false => simpa [Query.onlyColumn, Query.select, modify, hm] using hselected

theorem IsBuilt.deliver {q : Query} (h : q.IsBuilt) (shape : Shape) : (q.deliver shape).IsBuilt :=
  .bare (.deliver shape) h rfl rfl

/-- Rows and values are asked for by calls in a row. -/
theorem IsBuilt.results {q : Query} (h : q.IsBuilt) (column : String) :
    q.take.IsBuilt ∧ q.takeOptional.IsBuilt ∧ (q.get column).IsBuilt ∧
      (q.getOptional column).IsBuilt ∧ (q.pluck column).IsBuilt :=
  ⟨h.limitOne.deliver _, h.limitOne.deliver _, (h.limitOne.onlyColumn column).deliver _,
    (h.limitOne.onlyColumn column).deliver _, (h.onlyColumn column).deliver _⟩

/-- **Entries keep their names to themselves.** However records, tables and queries are built, no
two columns of a record are the same, and no two default filters, windows or common table
expressions of one statement have one name, whether the statement is that of the query, or of one in
it or appended to it. A new entry of a name takes the place of the older one: where that stood for
an assignment or a window, and last for a default filter or a common table expression. An entry is
removed by its name. In each case all other entries stay as they are and in their order, and nothing
else in the query changes. -/
theorem entries_stay_distinct :
    (∀ r : Record Query, r.IsBuilt → KeysDiffer Assignment.column r.assignments ∧
      ∀ column value,
        Replaces Assignment.column ⟨column, value⟩ r.assignments
          (r.assign column value).assignments) ∧
    (∀ t : Table, t.IsBuilt → KeysDiffer Scope.name t.scopes ∧
      (∀ name condition, ∃ scopes, t.scope name condition = { t with scopes } ∧
        MovesLast Scope.name ⟨name, condition⟩ t.scopes scopes) ∧
      ∀ column, ∃ scopes,
        t.softDelete column = { info := { t.info with softDelete := some column }, scopes } ∧
        MovesLast Scope.name ⟨deletedScope, Condition.isNull column⟩ t.scopes scopes) ∧
    ∀ q : Query, q.IsBuilt →
      (∀ d, q.Holds d → d.NamesDiffer) ∧
      (∀ name condition, ∃ scopes, q.scope name condition = q.modify (fun c => { c with scopes }) ∧
        MovesLast Scope.name ⟨name, condition⟩ q.clauses.scopes scopes) ∧
      (∀ name, ∃ scopes, q.unscope name = q.modify (fun c => { c with scopes }) ∧
        Drops Scope.name name q.clauses.scopes scopes) ∧
      (∀ cte, ∃ ctes, q.withCte cte = q.modify (fun c => { c with ctes }) ∧
        MovesLast Cte.name cte q.clauses.ctes ctes) ∧
      (∀ w, ∃ windows, q.window w = q.modify (fun c => { c with windows }) ∧
        Replaces Window.name w q.clauses.windows windows) ∧
      ∀ column value r, q.clauses.mutation = some (.update r) →
        ∃ assignments, q.assign column value = q.update ⟨assignments⟩ ∧
          Replaces Assignment.column ⟨column, value⟩ r.assignments assignments := by
  refine ⟨fun r hr => ⟨hr.keysDiffer, fun _ _ => replaces_put hr.keysDiffer _⟩, fun t ht => ?_,
    fun q hq => ?_⟩
  · exact ⟨ht.keysDiffer, fun _ _ => ⟨_, rfl, movesLast_putLast ht.keysDiffer _⟩,
      fun _ => ⟨_, rfl, movesLast_putLast ht.keysDiffer _⟩⟩
  · have hown : q.clauses.NamesDiffer := hq.namesDiffer (holds_iff.2 (.inl rfl))
    refine ⟨fun d hd => hq.namesDiffer hd, fun _ _ => ⟨_, rfl, movesLast_putLast hown.scopes _⟩,
      fun _ => ⟨_, rfl, drops_remove hown.scopes _⟩,
      fun _ => ⟨_, rfl, movesLast_putLast hown.ctes _⟩,
      fun _ => ⟨_, rfl, replaces_put hown.windows _⟩, fun column value r hr => ?_⟩
    refine ⟨_, ?_, replaces_put (hown.records _ hr r List.mem_cons_self) ⟨column, value⟩⟩
    rw [assign, hr]
    rfl

/-- A query with two windows, of which the first one is defined once more, and a table whose default
filter against deleted rows comes to stand behind another one. -/
theorem entries_stay_distinct_redefined :
    (((empty.window ⟨"w", [], [], none⟩).window ⟨"v", [], [], none⟩).window
        ⟨"w", [], [.asc "id"], none⟩).clauses.windows.map Window.name = ["w", "v"] ∧
    ((((Table.named "user").softDelete "deletedAt").scope "active"
        (Condition.isNull "bannedAt")).softDelete "removedAt").scopes.map Scope.name =
      ["active", "deleted"] ∧
    ((Record.empty.assign "id" .default).assign "id" (.value .null) : Record Query).columns =
      ["id"] := by
  have hquery : ((empty.window ⟨"w", [], [], none⟩).window ⟨"v", [], [], none⟩).IsBuilt := by
    have hempty : empty.IsBuilt := .source (by simp [Source.ingredients])
    refine .call (.window _) (.call (.window _) hempty ?_ (List.forall_mem_nil _)) ?_
      (List.forall_mem_nil _)
    all_goals simp [Call.given, Window.ingredients]
  have htable : (((Table.named "user").softDelete "deletedAt").scope "active"
      (Condition.isNull "bannedAt")).IsBuilt :=
    ((Table.IsBuilt.named "user").softDelete _).scope _ _
  have hrecord : (Record.empty.assign "id" .default : Record Query).IsBuilt :=
    ⟨[("id", .default)], rfl⟩
  rcases entries_stay_distinct with ⟨hrecords, htables, hqueries⟩
  refine ⟨?_, ?_, ?_⟩
  · rcases (hqueries _ hquery).2.2.2.2.1 ⟨"w", [], [.asc "id"], none⟩
      with ⟨windows, happly, hreplaces⟩
    rw [happly, modify, clauses, hreplaces.old [] ⟨"w", [], [], none⟩ [⟨"v", [], [], none⟩] rfl rfl]
    rfl
  · rcases (htables _ htable).2.2 "removedAt" with ⟨scopes, hmarked, hmoves⟩
    rw [hmarked, hmoves.old [] ⟨deletedScope, Condition.isNull "deletedAt"⟩
      [⟨"active", Condition.isNull "bannedAt"⟩] rfl rfl]
    rfl
  · rw [Record.columns,
      ((hrecords _ hrecord).2 "id" (.value .null)).old [] ⟨"id", .default⟩ [] rfl rfl]
    rfl

end Query
end ParamSql

import ParamSql.Script.Step

/-!
# Body — running steps inside a transaction

- `Request.run`: a request to a driver.
- `Kept`: the savepoints that a body keeps, by name.
- `TxStep.run`, `TxStep.body`: a step, and the steps of a body. The savepoints that a body still
  keeps at its end are dropped.
-/

namespace ParamSql

/-- The outcome as an answer. -/
def Outcome.answer {α : Type} (f : α → Answer) : Outcome α → Outcome Answer
  | .done a => .done (f a)
  | .failed e => .failed e
  | .abandoned => .abandoned

/-- Asks a driver for something. -/
def Request.run {σ : Type} (d : Driver σ) (s : σ) : Request → Outcome Answer × σ
  | .query c =>
      let (reply, s) := d.query c s
      ((Outcome.ofExcept reply).answer .reply, s)
  | .fetch (.ok f) =>
      let (fetched, s) := f.run d s
      ((Outcome.ofExcept fetched).answer .fetched, s)
  | .fetch (.error e) => (.failed e, s)
  | .fail e => (.failed e, s)
  | .pend => (.abandoned, s)
  | .close =>
      let (result, s) := d.close s
      ((Outcome.ofExcept result).answer fun _ => .nothing, s)

/-- The savepoints that a body keeps: the name it keeps each under, and that of the savepoint. -/
abbrev Kept := List (String × String)

namespace Kept

/-- The first savepoint kept under a name, and the others. -/
def take? (name : String) : Kept → Option (String × Kept)
  | [] => none
  | (n, savepoint) :: rest =>
      if n = name then some (savepoint, rest)
      else (take? name rest).map fun (found, others) => (found, (n, savepoint) :: others)

/-- Drops all savepoints, in order. -/
def dropAll {σ : Type} (d : Driver σ) (kept : Kept) (t : Transaction σ) : Transaction σ :=
  kept.foldl (fun t (_, savepoint) => t.dropSavepoint d savepoint) t

end Kept

namespace TxStep

variable {σ : Type} (d : Driver σ) (note : Note → σ → σ)

/-- Notes what has happened inside a transaction. -/
def noted (activity : Activity) (outcome : Except Error Answer) (t : Transaction σ) :
    Transaction σ :=
  { t with connection := note ⟨activity, outcome, some t.savepoints⟩ t.connection }

/-- Ends a savepoint that is kept, if there is one of that name. -/
def endKept (name : String) (kept : Kept)
    (finish : String → Transaction σ → Except Error Unit × Transaction σ) (t : Transaction σ) :
    Outcome Answer × Kept × Transaction σ :=
  match kept.take? name with
  | none => (.done .notKept, kept, t)
  | some (sp, rest) =>
      let (result, t) := finish sp t
      ((Outcome.ofExcept result).answer fun _ => .nothing, rest, t)

/-- The steps of a body behind the note of its beginning; savepoints that are still kept at the end
are dropped. -/
def enclosed (steps : Kept → Transaction σ → Outcome Unit × Kept × Transaction σ)
    (t : Transaction σ) : Outcome Unit × Transaction σ :=
  let (outcome, kept, t) := steps [] t
  (outcome, kept.dropAll d t)

mutual
/-- Runs a step. -/
def run : TxStep → Kept → Transaction σ → Outcome Answer × Kept × Transaction σ
  | .request r, kept, t =>
      let (outcome, t) := r.run (Transaction.driver d) t
      (outcome, kept, t)
  | .bypass r, kept, t =>
      let (outcome, t) := t.onConnection fun s => r.run d s
      (outcome, kept, t)
  | .via name r, kept, t =>
      match kept.take? name with
      | none => (.done .notKept, kept, t)
      | some (sp, rest) =>
          match r.run (Transaction.driver d) t with
          | (.abandoned, t) => (.abandoned, (name, sp) :: rest, t)
          | (outcome, t) => (outcome, rest ++ [(name, sp)], t)
  | .depth, kept, t => (.done (.depth t.savepoints.length), kept, t)
  | .savepoint name, kept, t =>
      match t.savepoint d with
      | (.ok sp, t) => (.done (.savepoint sp), kept ++ [(name, sp)], t)
      | (.error e, t) => (.failed e, kept, t)
  | .release name, kept, t => endKept name kept (Transaction.release d) t
  | .rollbackTo name, kept, t => endKept name kept (Transaction.rollbackTo d) t
  | .drop name, kept, t =>
      endKept name kept (fun sp t => (.ok (), t.dropSavepoint d sp)) t
  | .transaction steps, kept, t =>
      let (outcome, t) :=
        Transaction.nested d
          (fun t => enclosed d (runAll steps) (noted note .enter (.ok .nothing) t)) t
      (outcome.answer fun _ => .nothing, kept, t)
  | .cancel steps, kept, t =>
      match enclosed d (runAll steps) t with
      | (.done _, t) => (.done .finished, kept, t)
      | (.failed e, t) => (.failed e, kept, t)
      | (.abandoned, t) => (.done .cancelled, kept, t)
  | .caught s, kept, t => s.run kept t

/-- Runs steps, each with a note of it, up to the first that fails and is not caught. -/
def runAll : List TxStep → Kept → Transaction σ → Outcome Unit × Kept × Transaction σ
  | [], kept, t => (.done (), kept, t)
  | s :: rest, kept, t =>
      match s.run kept t with
      | (.done answer, kept, t) => runAll rest kept (noted note s.activity (.ok answer) t)
      | (.failed e, kept, t) =>
          let t := noted note s.activity (.error e) t
          if s.isCaught then runAll rest kept t else (.failed e, kept, t)
      | (.abandoned, kept, t) => (.abandoned, kept, t)
end

/-- The body of a transaction. -/
def body (steps : List TxStep) (t : Transaction σ) : Outcome Unit × Transaction σ :=
  enclosed d (runAll d note steps) (noted note .enter (.ok .nothing) t)

end TxStep
end ParamSql

import ParamSql.Proofs.Connection.Turn

/-!
# Body — what is done inside a transaction, and how it shows on the connection

A body decides after every answer what it does next, and its nested transactions are bodies again.
What it has done is a course: statements with their replies and blocks, each of them between the
statement that opens it and the one that closes it.

* `Body`, `Body.run` — bodies, and what a driver makes of them;
* `Course`, `Course.turns` — what a body has done, and the turns of it in order;
* `Closes` — how a block ends, and what comes of it;
* `Body.Takes` — the courses that a body can take, with the savepoints that are open.
-/

namespace ParamSql

/-! ## Bodies -/

/-- What is done inside a transaction. -/
inductive Body : Type → Type 1
  /-- The end, with a result or an error; or it is given up here. -/
  | ended {α : Type} (outcome : Outcome α) : Body α
  /-- Sends a statement. -/
  | call {α : Type} (c : Call) (next : Except Error Reply → Body α) : Body α
  /-- Looks at the names of the open savepoints. -/
  | look {α : Type} (next : List String → Body α) : Body α
  /-- Runs a body in a nested transaction. -/
  | nested {α β : Type} (inner : Body β) (next : Outcome β → Body α) : Body α
  /-- Runs a body in a transaction that is begun anew on the same connection. -/
  | separate {α β : Type} (options : TransactionOptions) (inner : Body β)
      (next : Outcome β → Body α) : Body α

namespace Body

/-- Runs a body in an open transaction. -/
def run : {α : Type} → Body α → {σ : Type} → Driver σ → Transaction σ → Outcome α × Transaction σ
  | _, .ended outcome, _, _, t => (outcome, t)
  | _, .call c next, _, d, t =>
      let (reply, t) := (Transaction.driver d).query c t
      (next reply).run d t
  | _, .look next, _, d, t => (next t.savepoints).run d t
  | _, .nested inner next, _, d, t =>
      let (outcome, t) := Transaction.nested d (inner.run d) t
      (next outcome).run d t
  | _, .separate options inner next, _, d, t =>
      let (outcome, t) :=
        Transaction.run (Transaction.driver d) options (inner.run (Transaction.driver d)) t
      (next outcome).run d t

/-- Whether all statements that a body may send by itself have a property. -/
def Sends (P : Call → Prop) : {α : Type} → Body α → Prop
  | _, .ended _ => True
  | _, .call c next => P c ∧ ∀ reply, (next reply).Sends P
  | _, .look next => ∀ savepoints, (next savepoints).Sends P
  | _, .nested inner next => inner.Sends P ∧ ∀ outcome, (next outcome).Sends P
  | _, .separate options inner next =>
      P ⟨options.sql, []⟩ ∧ inner.Sends P ∧ ∀ outcome, (next outcome).Sends P

end Body

/-! ## Courses -/

/-- What a block is opened by. -/
inductive Opening
  | begin (options : TransactionOptions)
  | savepoint (name : String)

namespace Opening

/-- The statement that opens a block. -/
def sql : Opening → String
  | .begin options => options.sql
  | .savepoint name => "SAVEPOINT " ++ name

/-- The statement that keeps what a block has done. -/
def keepSql : Opening → String
  | .begin _ => "COMMIT"
  | .savepoint name => "RELEASE SAVEPOINT " ++ name

/-- The statement that undoes what a block has done. -/
def undoSql : Opening → String
  | .begin _ => "ROLLBACK"
  | .savepoint name => "ROLLBACK TO SAVEPOINT " ++ name

end Opening

/-- The end of a block: what it has done is kept by a statement or undone by one, or it is left
without a statement. -/
inductive BlockEnd
  | kept (reply : Except Error Reply)
  | undone (reply : Except Error Reply)
  | left

namespace BlockEnd

/-- The turns that close a block. -/
def turns (opening : Opening) : BlockEnd → List Turn
  | .kept reply => [⟨⟨opening.keepSql, []⟩, reply⟩]
  | .undone reply => [⟨⟨opening.undoSql, []⟩, reply⟩]
  | .left => []

/-- Whether a block with this end has an error for its outcome. -/
def isFailure : BlockEnd → Bool
  | .kept (.ok _) => false
  | .kept (.error _) => true
  | .undone _ => true
  | .left => false

end BlockEnd

/-- What a body has done. -/
inductive Course
  | ended
  /-- A statement. -/
  | call (c : Call) (reply : Except Error Reply) (rest : Course)
  /-- A block that could not be opened. -/
  | refused (opening : Opening) (e : Error) (rest : Course)
  /-- A block with what has been done in it. -/
  | block (opening : Opening) (opened : Reply) (inner : Course) (ending : BlockEnd) (rest : Course)

namespace Course

/-- The turns of a course, in order. -/
def turns : Course → List Turn
  | .ended => []
  | .call c reply rest => ⟨c, reply⟩ :: rest.turns
  | .refused opening e rest => ⟨⟨opening.sql, []⟩, .error e⟩ :: rest.turns
  | .block opening opened inner ending rest =>
      (⟨⟨opening.sql, []⟩, .ok opened⟩ :: (inner.turns ++ ending.turns opening)) ++
        rest.turns

/-- The savepoints that a course has tried to open, in order. Those of a transaction that is begun
in it are not its own. -/
def names : Course → List String
  | .ended => []
  | .call _ _ rest => rest.names
  | .refused (.savepoint name) _ rest => name :: rest.names
  | .refused (.begin _) _ rest => rest.names
  | .block (.savepoint name) _ inner _ rest => name :: (inner.names ++ rest.names)
  | .block (.begin _) _ _ _ rest => rest.names

/-- The statements of a course that stand in no block with an error for its outcome, in order. -/
def kept : Course → List Call
  | .ended => []
  | .call c _ rest => c :: rest.kept
  | .refused _ _ rest => rest.kept
  | .block _ _ inner ending rest => (if ending.isFailure then [] else inner.kept) ++ rest.kept

end Course

/-! ## The courses of a body -/

/-- How a block ends behind a body with an outcome, and the outcome of the block. -/
inductive Closes {α : Type} : Outcome α → BlockEnd → Outcome α → Prop
  | kept (a : α) (reply : Reply) : Closes (.done a) (.kept (.ok reply)) (.done a)
  | notKept (a : α) (e : Error) : Closes (.done a) (.kept (.error e)) (.failed e)
  | undone (e : Error) (reply : Reply) : Closes (.failed e) (.undone (.ok reply)) (.failed e)
  | notUndone (e rollback : Error) :
      Closes (.failed e) (.undone (.error rollback)) (.failed (.abort e rollback))
  | left : Closes .abandoned .left .abandoned

/-- The name of the savepoint that is opened as the `k`-th one in a transaction. -/
def Transaction.nameAt (k : Nat) : String :=
  "s" ++ toString k

/-- `body.Takes enclosing k course outcome`: in a transaction in which `k` savepoints have been
named before and those of `enclosing` are open, the body can take the course and come to the
outcome. -/
inductive Body.Takes : {α : Type} → Body α → List String → Nat → Course → Outcome α → Prop
  | ended {α : Type} {enclosing : List String} {k : Nat} (outcome : Outcome α) :
      (Body.ended outcome).Takes enclosing k .ended outcome
  | call {α : Type} {enclosing : List String} {k : Nat} {c : Call}
      {next : Except Error Reply → Body α} {rest : Course} {outcome : Outcome α}
      (reply : Except Error Reply) :
      (next reply).Takes enclosing k rest outcome →
      (Body.call c next).Takes enclosing k (.call c reply rest) outcome
  /-- The open savepoints are those of the enclosing nested transactions. -/
  | look {α : Type} {enclosing : List String} {k : Nat} {next : List String → Body α}
      {rest : Course} {outcome : Outcome α} :
      (next enclosing).Takes enclosing k rest outcome →
      (Body.look next).Takes enclosing k rest outcome
  /-- A name is used up also by a savepoint that cannot be opened. -/
  | nestedRefused {α β : Type} {enclosing : List String} {k : Nat} {inner : Body β}
      {next : Outcome β → Body α} {rest : Course} {outcome : Outcome α} (e : Error) :
      (next (.failed e)).Takes enclosing (k + 1) rest outcome →
      (Body.nested inner next).Takes enclosing k
        (.refused (.savepoint (Transaction.nameAt (k + 1))) e rest) outcome
  | nested {α β : Type} {enclosing : List String} {k : Nat} {inner : Body β}
      {next : Outcome β → Body α} {course rest : Course} {ended closed : Outcome β}
      {ending : BlockEnd} {outcome : Outcome α} (opened : Reply) :
      inner.Takes (enclosing ++ [Transaction.nameAt (k + 1)]) (k + 1) course ended →
      Closes ended ending closed →
      (next closed).Takes enclosing (k + 1 + course.names.length) rest outcome →
      (Body.nested inner next).Takes enclosing k
        (.block (.savepoint (Transaction.nameAt (k + 1))) opened course ending rest) outcome
  | separateRefused {α β : Type} {enclosing : List String} {k : Nat}
      {options : TransactionOptions} {inner : Body β} {next : Outcome β → Body α} {rest : Course}
      {outcome : Outcome α} (e : Error) :
      (next (.failed e)).Takes enclosing k rest outcome →
      (Body.separate options inner next).Takes enclosing k
        (.refused (.begin options) e rest) outcome
  /-- A transaction that is begun anew has no savepoints and counts its names from the first. -/
  | separate {α β : Type} {enclosing : List String} {k : Nat} {options : TransactionOptions}
      {inner : Body β} {next : Outcome β → Body α} {course rest : Course}
      {ended closed : Outcome β} {ending : BlockEnd} {outcome : Outcome α} (opened : Reply) :
      inner.Takes [] 0 course ended → Closes ended ending closed →
      (next closed).Takes enclosing k rest outcome →
      (Body.separate options inner next).Takes enclosing k
        (.block (.begin options) opened course ending rest) outcome

end ParamSql

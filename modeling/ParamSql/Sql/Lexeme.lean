import ParamSql.Query.Clause

/-!
# Lexeme — the pieces of a written statement

A statement is written as a list of lexemes, which keep apart what is fixed, what is a quoted name,
what the caller has written, and what is bound to a placeholder.

- `Lexeme`, `Lexeme.piece`: the pieces, and the text each of them stands for.
- `Output`: what lexemes are put down in, one behind another. The lexemes themselves are one output.
- `CompileFault`: why a statement cannot be written.
- `Rendering`: a part of a statement, written on demand to any output.
-/

namespace ParamSql

/-- A piece of a written statement. -/
inductive Lexeme
  | fixed (s : String)
  | name (i : Identifier)
  | verbatim (s : String)
  | bind (v : Value)
  deriving Repr, Inhabited, BEq

namespace Lexeme

/-- The text or the placeholder of a lexeme. -/
def piece : Lexeme → Piece
  | .fixed s => .text s
  | .name i => .text i.quoted
  | .verbatim s => .text s
  | .bind v => .bind v

/-- The lexeme of a piece of a fragment. -/
def ofPiece : Piece → Lexeme
  | .text s => .verbatim s
  | .bind v => .bind v

/-- The values bound to placeholders, in order. -/
def params (lexemes : List Lexeme) : List Value :=
  Piece.values (lexemes.map piece)

/-- The text of a statement. -/
def text (lexemes : List Lexeme) : String :=
  Piece.numbered (lexemes.map piece)

end Lexeme

/-! ## Outputs -/

/-- What a statement is written to. A writer only puts down lexemes, one behind another, and never
looks at what is there. -/
class Output (ω : Type) where
  blank : ω
  append : ω → ω → ω
  ofLexeme : Lexeme → ω

namespace Output

variable {ω : Type} [Output ω]

/-- Outputs behind each other. -/
def join (os : List ω) : ω :=
  os.foldr append blank

/-- Lexemes behind each other. -/
def ofLexemes (ls : List Lexeme) : ω :=
  join (ls.map ofLexeme)

end Output

/-- The lexemes themselves. -/
instance : Output (List Lexeme) where
  blank := []
  append before behind := before ++ behind
  ofLexeme l := [l]

/-! ## Faults -/

/-- A statement that changes rows. -/
inductive Verb
  | insert
  | update
  | delete
  deriving DecidableEq, Repr

def Verb.sql : Verb → String
  | .insert => "INSERT"
  | .update => "UPDATE"
  | .delete => "DELETE"

/-- Why a query cannot be written as a statement. -/
inductive CompileFault
  | identifier (fault : IdentifierFault)
  | nestedAppend
  | tooManyParams (count limit : Nat)
  | outerJoin (kind : JoinKind)
  | noTable (verb : Verb)
  | noRecords
  | noColumns
  | relativeInsert (column : String)
  | noConflictTarget
  | emptyMerge
  | emptyUpdate
  | unguarded (verb : Verb)
  deriving DecidableEq, Repr

namespace CompileFault

/-- Whether the fault is a change that would affect every row. -/
def isGuard : CompileFault → Bool
  | .unguarded _ => true
  | _ => false

def message : CompileFault → String
  | .identifier fault => fault.message
  | .nestedAppend => "appended queries are only supported on the outermost statement"
  | .tooManyParams count limit =>
      s!"query binds {count} parameters, more than the limit of {limit}"
  | .outerJoin kind => s!"{kind.sql} is not supported in UPDATE or DELETE"
  | .noTable verb => s!"{verb.sql} requires a table source"
  | .noRecords => "INSERT requires at least one record"
  | .noColumns => "INSERT of several records requires at least one column"
  | .relativeInsert column => s!"cannot increment \"{column}\" in INSERT"
  | .noConflictTarget => "ON CONFLICT DO UPDATE requires conflict target columns"
  | .emptyMerge => "ON CONFLICT merge requires columns"
  | .emptyUpdate => "UPDATE requires at least one assignment"
  | .unguarded verb => s!"{verb.sql} without WHERE conditions; call all() to affect every row"

end CompileFault

/-! ## Renderings -/

/-- A part of a statement, which is written when it is asked for: what is put down, or the first
fault in it. What stands behind a fault, and what a statement has no use for, is never written. -/
structure Rendering (ω : Type) where
  write : Unit → Except CompileFault ω

namespace Rendering

variable {ω : Type}

/-- What is written. -/
def result (r : Rendering ω) : Except CompileFault ω :=
  r.write ()

/-- A part that cannot be written. -/
def fault (f : CompileFault) : Rendering ω :=
  ⟨fun _ => .error f⟩

/-- A part that is put together only when it is asked for. -/
def delayed (r : Unit → Rendering ω) : Rendering ω :=
  ⟨fun _ => (r ()).result⟩

variable [Output ω]

/-- The lexemes themselves. -/
def lexemes (ls : List Lexeme) : Rendering ω :=
  ⟨fun _ => .ok (Output.ofLexemes ls)⟩

def nothing : Rendering ω := lexemes []

def fixed (s : String) : Rendering ω := lexemes [.fixed s]

def bind (v : Value) : Rendering ω := lexemes [.bind v]

/-- The text and the values of a fragment. -/
def fragment (f : Fragment) : Rendering ω := lexemes (f.pieces.map .ofPiece)

/-- One part behind another; a fault in the first one is reported. -/
def append (r s : Rendering ω) : Rendering ω :=
  ⟨fun _ => do
    let before ← r.result
    let behind ← s.result
    return Output.append before behind⟩

instance : Append (Rendering ω) := ⟨append⟩

/-- Parts behind each other. -/
def concat (rs : List (Rendering ω)) : Rendering ω :=
  ⟨fun _ => (rs.mapM result).map Output.join⟩

/-- Parts with a fixed text between them. -/
def separated (separator : String) (rs : List (Rendering ω)) : Rendering ω :=
  ⟨fun _ => (rs.mapM result).map fun os =>
    Output.join (os.intersperse (Output.ofLexeme (.fixed separator)))⟩

/-- Parts with commas between them. -/
def commas (rs : List (Rendering ω)) : Rendering ω :=
  separated ", " rs

/-- A part between brackets. -/
def bracketed (r : Rendering ω) : Rendering ω :=
  fixed "(" ++ r ++ fixed ")"

/-- A list behind its keyword; nothing at all is written for an empty one. -/
def clause (keyword : String) (rs : List (Rendering ω)) : Rendering ω :=
  if rs.isEmpty then nothing else fixed keyword ++ commas rs

/-- An optional part. -/
def optional {α : Type} (write : α → Rendering ω) : Option α → Rendering ω
  | none => nothing
  | some a => write a

/-- A quoted name. -/
def name (s : String) : Rendering ω :=
  match Identifier.of s with
  | .ok i => lexemes [.name i]
  | .error f => fault (.identifier f)

/-- A quoted path, whose parts are written with dots between them. -/
def path (s : String) : Rendering ω :=
  match Path.of s with
  | .ok p => lexemes ((p.map Lexeme.name).intersperse (.fixed "."))
  | .error f => fault (.identifier f)

end Rendering
end ParamSql

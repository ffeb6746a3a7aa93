import RecordGate.Expression.Lexer
import RecordGate.Value.Basic

/-!
# From tokens to a tree

Rules are built from operands, in order of binding: negation and parentheses, one order comparison,
chains of equality comparisons, chains of conjunctions, chains of disjunctions.  Chains group to the
left.  Every reader takes tokens from the front of a list and gives back the rest; the readers of the
looser levels are made from the reader of the tighter one, and only negation and parentheses go one level
down, so that the recursion is on the number of levels left.
-/

namespace RecordGate.Expression

inductive Comparison where
  | equal
  | unequal
  | less
  | lessEqual
  | greater
  | greaterEqual
  deriving DecidableEq, Inhabited

inductive Tree where
  | literal (v : Value)
  | path (p : Path)
  | not (e : Tree)
  | compare (c : Comparison) (left right : Tree)
  | and (left right : Tree)
  | or (left right : Tree)
  deriving Inhabited

/-- A reader of tokens: the tree it reads, and the tokens that follow. -/
abbrev TreeReader := List Located → Except SyntaxError (Tree × List Located)

/-! ### Operators -/

def disjunction? : Token → Option (Tree → Tree → Tree)
  | .or => some .or
  | _ => none

def conjunction? : Token → Option (Tree → Tree → Tree)
  | .and => some .and
  | _ => none

def equality? : Token → Option (Tree → Tree → Tree)
  | .equal => some (.compare .equal)
  | .unequal => some (.compare .unequal)
  | _ => none

def relation? : Token → Option (Tree → Tree → Tree)
  | .less => some (.compare .less)
  | .lessEqual => some (.compare .lessEqual)
  | .greater => some (.compare .greater)
  | .greaterEqual => some (.compare .greaterEqual)
  | _ => none

/-- The leaf that a token stands for, if it stands for one. -/
def leaf? : Token → Option Tree
  | .text s => some (.literal (.text s))
  | .number x => some (.literal (.number (.float x)))
  | .yes => some (.literal (.bool true))
  | .no => some (.literal (.bool false))
  | .null => some (.literal .null)
  | .path p => some (.path p)
  | _ => none

def unexpected (t : Located) : SyntaxError := .unexpectedToken t.token t.offset

/-! ### Chains -/

/-- Go on with a chain whose left part is read; `fuel` bounds the operators still to come. -/
def chainFrom (join? : Token → Option (Tree → Tree → Tree)) (operand : TreeReader) :
    (fuel : Nat) → Tree → TreeReader
  | 0, left, ts => .ok (left, ts)
  | _, left, [] => .ok (left, [])
  | fuel + 1, left, t :: ts =>
    match join? t.token with
    | none => .ok (left, t :: ts)
    | some join =>
      match operand ts with
      | .error e => .error e
      | .ok (right, rest) => chainFrom join? operand fuel (join left right) rest

/-- Operands joined by operators of one level, grouped to the left. -/
def chain (join? : Token → Option (Tree → Tree → Tree)) (operand : TreeReader) : TreeReader := fun ts =>
  match operand ts with
  | .error e => .error e
  | .ok (left, rest) => chainFrom join? operand rest.length left rest

/-- An operand, or two with an order comparison between them. -/
def relation (operand : TreeReader) : TreeReader := fun ts =>
  match operand ts with
  | .error e => .error e
  | .ok (left, []) => .ok (left, [])
  | .ok (left, t :: rest) =>
    match relation? t.token with
    | none => .ok (left, t :: rest)
    | some join =>
      match operand rest with
      | .error e => .error e
      | .ok (right, rest) => .ok (join left right, rest)

/-- A whole rule over the reader of its operands. -/
def disjunction (operand : TreeReader) : TreeReader :=
  chain disjunction? (chain conjunction? (chain equality? (relation operand)))

/-! ### Operands -/

/-- A closing parenthesis has to follow. -/
def closed (e : Tree) : TreeReader
  | [] => .error .unexpectedEnd
  | t :: rest => if t.token = .closing then .ok (e, rest) else .error (unexpected t)

/-- An operand under which `depth` more negations and parentheses may be nested. -/
def unary : (depth : Nat) → TreeReader
  | _, [] => .error .unexpectedEnd
  | 0, t :: rest =>
    match t.token with
    | .not => .error .tooDeep
    | .opening => .error .tooDeep
    | token => match leaf? token with
      | some e => .ok (e, rest)
      | none => .error (unexpected t)
  | depth + 1, t :: rest =>
    match t.token with
    | .not =>
      match unary depth rest with
      | .error e => .error e
      | .ok (e, rest) => .ok (.not e, rest)
    | .opening =>
      match disjunction (unary depth) rest with
      | .error e => .error e
      | .ok (e, rest) => closed e rest
    | token => match leaf? token with
      | some e => .ok (e, rest)
      | none => .error (unexpected t)

/-- The tree of a list of tokens, all of which it has to use. -/
def treeOf (ts : List Located) : Except SyntaxError Tree :=
  if ts.isEmpty then .error .empty
  else match disjunction (unary maxDepth) ts with
    | .error e => .error e
    | .ok (e, []) => .ok e
    | .ok (_, t :: _) => .error (unexpected t)

end RecordGate.Expression

import SnapBlocks.Host.Shell.Word
import SnapBlocks.Host.Numeral

/-!
# Arithmetic

The value of an expression is found as it is read, from left to right: what is wrong
with its end is not seen if its beginning already fails. Numbers have 64 bits and wrap
around. Parts that do not count, such as the branch of a choice that is not taken, are
read but not evaluated.

Variables are looked up by a function that is given. Those that the expression sets
are kept beside it, and are what its own later parts see.
-/

namespace SnapBlocks.Host.Shell.Arithmetic

/-- **A token of an expression.** -/
inductive Lexeme where
  /-- A number. -/
  | number (n : Int)
  /-- The name of a variable. -/
  | name (text : Bytes)
  /-- An operator or parenthesis. -/
  | sign (text : String)
  /-- A character that has no meaning. -/
  | stray
deriving DecidableEq, Repr

/-- The operators and parentheses; one that another begins with stands behind it. -/
def signs : List String :=
  ["<<=", ">>=", "<<", ">>", "<=", ">=", "==", "!=", "&&", "||", "+=", "-=", "*=", "/=", "%=",
    "&=", "|=", "^=", "=", "<", ">", "&", "|", "^", "+", "-", "*", "/", "%", "!", "~", "(", ")",
    "?", ":"]

/-- The operators of two operands, each with its level. A lower level binds more tightly. -/
def levels : List (String × Nat) :=
  [("*", 0), ("/", 0), ("%", 0), ("+", 1), ("-", 1), ("<<", 2), (">>", 2), ("<", 3), (">", 3),
    ("<=", 3), (">=", 3), ("==", 4), ("!=", 4), ("&", 5), ("^", 6), ("|", 7)]

/-- The operators that assign, each with the one that it applies first. -/
def assignments : List (String × Option String) :=
  [("=", none), ("+=", some "+"), ("-=", some "-"), ("*=", some "*"), ("/=", some "/"),
    ("%=", some "%"), ("<<=", some "<<"), (">>=", some ">>"), ("&=", some "&"), ("^=", some "^"),
    ("|=", some "|")]

/-- The tokens of an expression of no more than `fuel` characters. -/
def lexemes : Nat → Bytes → List Lexeme
  | 0, _ | _, [] => []
  | fuel + 1, c :: rest =>
    if c = ' ' || c = '\t' || c = '\n' then lexemes fuel rest
    else if c.isDigit then
      match Numeral.magnitude? 0 (c :: rest) with
      | some (n, rest) => .number (Numeral.clamp n) :: lexemes fuel rest
      | none => [.stray]
    else if beginsName c then
      let name := (c :: rest).takeWhile inName
      .name name :: lexemes fuel ((c :: rest).drop name.length)
    else
      match signs.find? fun sign => sign.toList.isPrefixOf (c :: rest) with
      | some sign => .sign sign :: lexemes fuel ((c :: rest).drop sign.length)
      | none => [.stray]

/-- **What is wrong with an expression.** -/
inductive Fault where
  /-- An operand is missing. -/
  | primary
  /-- A parenthesis is not closed. -/
  | parenthesis
  /-- A choice has one branch only. -/
  | colon
  /-- Something follows the expression. -/
  | ending
  /-- The divisor is zero. -/
  | division
  /-- The value of a variable is no number. -/
  | numeral (text : Bytes)
deriving DecidableEq, Repr

/-- The wording of a fault of an expression. -/
def Fault.message (expression : Bytes) : Fault → Bytes
  | numeral text => "Illegal number: ".toList ++ text
  | fault =>
    let what := match fault with
      | primary => "expecting primary"
      | parenthesis => "expecting ')'"
      | colon => "expecting ':'"
      | ending => "expecting EOF"
      | division => "division by zero"
      | numeral _ => ""
    "arithmetic expression: ".toList ++ what.toList ++ ": \"".toList ++ expression ++ ['"']

/-- **How far an expression has been read.** -/
structure State where
  /-- The tokens to come. -/
  rest : List Lexeme
  /-- The variables that have been set, latest first. -/
  known : List (Bytes × Int)

/-- Reading an expression. -/
abbrev Eval := EStateM Fault State

/-- Whether the next token is a sign, which is then passed over. -/
def takes (text : String) : Eval Bool := do
  match (← get).rest with
  | .sign found :: rest =>
    if found = text then modify fun s => { s with rest }; return true
    else return false
  | _ => return false

/-- The value of a variable. -/
def valueOf (lookup : Bytes → Option Bytes) (name : Bytes) : Eval Int := do
  match (← get).known.lookup name with
  | some n => return n
  | none =>
    let text := (lookup name).getD []
    if text.all Numeral.isBlank then return 0
    match Numeral.whole? 0 text with
    | some n => return n
    | none => throw (.numeral text)

/-- A truth value as a number. -/
def truth (b : Bool) : Int := if b then 1 else 0

/-- A number of 64 bits from the bits of two others. -/
def bitwise (f : Nat → Nat → Nat) (a b : Int) : Int :=
  Numeral.wrap (f (Numeral.unsigned a) (Numeral.unsigned b))

/-- **Applies an operator to two numbers.** -/
def apply (operator : String) (a b : Int) : Except Fault Int :=
  match operator with
  | "*" => .ok (Numeral.wrap (a * b))
  | "/" => if b = 0 then .error .division else .ok (Numeral.wrap (a.tdiv b))
  | "%" => if b = 0 then .error .division else .ok (Numeral.wrap (a.tmod b))
  | "+" => .ok (Numeral.wrap (a + b))
  | "-" => .ok (Numeral.wrap (a - b))
  | "<<" => .ok (Numeral.wrap (a * ((1 <<< (Numeral.unsigned b % 64) : Nat) : Int)))
  | ">>" => .ok (a.fdiv ((1 <<< (Numeral.unsigned b % 64) : Nat) : Int))
  | "<" => .ok (truth (a < b))
  | ">" => .ok (truth (b < a))
  | "<=" => .ok (truth (a ≤ b))
  | ">=" => .ok (truth (b ≤ a))
  | "==" => .ok (truth (a = b))
  | "!=" => .ok (truth (a ≠ b))
  | "&" => .ok (bitwise Nat.land a b)
  | "^" => .ok (bitwise Nat.xor a b)
  | _ => .ok (bitwise Nat.lor a b)

/-- Applies an operator in an expression. -/
def operate (operator : String) (a b : Int) : Eval Int :=
  match apply operator a b with
  | .ok n => return n
  | .error fault => throw fault

section

variable (lookup : Bytes → Option Bytes) (inside : Bool → Eval Int)

/-- **An operand with its signs**; `idle` says that its value does not count. -/
def primary : Nat → Bool → Eval Int
  | 0, _ => throw .primary
  | fuel + 1, idle => do
    let s ← get
    match s.rest with
    | [] => throw .primary
    | t :: rest =>
      set { s with rest }
      match t with
      | .number n => return n
      | .name name => if idle then return 0 else valueOf lookup name
      | .sign "(" =>
        let n ← inside idle
        if ← takes ")" then return n else throw .parenthesis
      | .sign "+" => primary fuel idle
      | .sign "-" => return Numeral.wrap (-(← primary fuel idle))
      | .sign "!" => return truth ((← primary fuel idle) = 0)
      | .sign "~" => return -(← primary fuel idle) - 1
      | _ => throw .primary

/-- The next token, if it is an operator of two operands, with its level. -/
def operator? : Eval (Option (String × Nat)) := do
  match (← get).rest with
  | .sign text :: _ => return (levels.lookup text).map fun level => (text, level)
  | _ => return none

/-- **Goes on behind a first operand** as long as operators below a level follow. What
binds more tightly than the operator in front of it is evaluated first. -/
def operations : Nat → Int → Nat → Bool → Eval Int
  | 0, a, _, _ => return a
  | fuel + 1, a, level, idle => do
    match ← operator? with
    | none => return a
    | some (operator, own) =>
      if level ≤ own then return a
      let _ ← takes operator
      let b ← primary lookup inside (fuel + 1) idle
      let b ← operations fuel b own idle
      let a ← if idle then pure b else operate operator a b
      operations fuel a level idle

/-- Operands that all have to be true. -/
def conjunction : Nat → Bool → Eval Int
  | 0, _ => throw .primary
  | fuel + 1, idle => do
    let a ← operations lookup inside fuel (← primary lookup inside fuel idle) 8 idle
    if ← takes "&&" then
      let b ← conjunction fuel (idle || a = 0)
      return truth (a ≠ 0 && b ≠ 0)
    else return a

/-- Operands of which one has to be true. -/
def disjunction : Nat → Bool → Eval Int
  | 0, _ => throw .primary
  | fuel + 1, idle => do
    let a ← conjunction lookup inside fuel idle
    if ← takes "||" then
      let b ← disjunction fuel (idle || a ≠ 0)
      return truth (a ≠ 0 || b ≠ 0)
    else return a

/-- A choice between two values. -/
def choice : Nat → Bool → Eval Int
  | 0, _ => throw .primary
  | fuel + 1, idle => do
    let a ← disjunction lookup inside fuel idle
    if ← takes "?" then
      let b ← inside (idle || a = 0)
      if ← takes ":" then
        let c ← choice fuel (idle || a ≠ 0)
        return if a ≠ 0 then b else c
      else throw .colon
    else return a

end

/-- The variable and the operator at the front, if they are those of an assignment. -/
def assignment? : List Lexeme → Option (Bytes × Option String × List Lexeme)
  | .name name :: .sign text :: rest =>
    (assignments.lookup text).map fun operator => (name, operator, rest)
  | _ => none

/-- **An expression**, which may be an assignment. -/
def expression (lookup : Bytes → Option Bytes) : Nat → Bool → Eval Int
  | 0, _ => throw .primary
  | fuel + 1, idle => do
    let s ← get
    match assignment? s.rest with
    | none => choice lookup (expression lookup fuel) fuel idle
    | some (name, operator?, rest) =>
      set { s with rest }
      let n ← expression lookup fuel idle
      if idle then return n
      let n ← match operator? with
        | none => pure n
        | some operator => operate operator (← valueOf lookup name) n
      modify fun s => { s with known := (name, n) :: s.known }
      return n

/-- **The value of an expression**, or what is wrong with it; and the variables that it
sets, in order. -/
def evaluate (lookup : Bytes → Option Bytes) (text : Bytes) :
    Except Fault Int × List (Bytes × Int) :=
  let whole : Eval Int := do
    let n ← expression lookup (2 * text.length + 8) false
    if (← get).rest.isEmpty then return n else throw .ending
  match whole ⟨lexemes text.length text, []⟩ with
  | .ok n s => (.ok n, s.known.reverse)
  | .error fault s => (.error fault, s.known.reverse)

end SnapBlocks.Host.Shell.Arithmetic

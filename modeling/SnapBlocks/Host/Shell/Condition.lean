import SnapBlocks.Host.Numeral

/-!
# Conditions

The command `test` judges its arguments as a condition on texts, numbers and files.
An argument that looks like an operator need not be one: what counts as operand
depends on the arguments behind it, and with three or four of them there are rules
that go before all others.

Reading and judging are one. What is left of the arguments is passed on with the
current one still at the front, since the operator behind it may have to be seen.
-/

namespace SnapBlocks.Host.Shell.Condition

/-- **The families of operators.** -/
inductive Family where
  /-- With one operand. -/
  | unary
  /-- With two operands. -/
  | binary
  /-- The negation. -/
  | negation
  /-- Between two conditions. -/
  | joint
  /-- A parenthesis. -/
  | paren
deriving DecidableEq, Repr

/-- The operators. -/
def operators : List (String × Family) :=
  (["-r", "-w", "-x", "-e", "-f", "-d", "-c", "-b", "-p", "-u", "-g", "-k", "-s", "-t", "-z", "-n",
      "-h", "-O", "-G", "-L", "-S"].map fun text => (text, .unary))
    ++ (["=", "!=", "<", ">", "-eq", "-ne", "-ge", "-gt", "-le", "-lt", "-nt", "-ot", "-ef"].map
      fun text => (text, .binary))
    ++ [("!", .negation), ("-a", .joint), ("-o", .joint), ("(", .paren), (")", .paren)]

/-- The operator that an argument is. -/
def operator? (argument : Bytes) : Option (String × Family) :=
  operators.find? fun (text, _) => text.toList = argument

/-- Whether an argument is an operator of a family. -/
def isOperator (family : Family) (argument : Bytes) : Bool :=
  (operator? argument).any (·.2 = family)

/-- **How an argument counts.** -/
inductive Role where
  /-- There is none. -/
  | ending
  /-- As an operand. -/
  | operand
  /-- As an operator. -/
  | operator (text : String) (family : Family)
deriving DecidableEq, Repr

/-- Whether an operator of one operand is an operand itself, in view of what follows. -/
def isOperand : List Bytes → Bool
  | [] => true
  | [_] => false
  | next :: _ :: _ => isOperator .binary next

/-- **How the first of some arguments counts.** -/
def role : List Bytes → Role
  | [] => .ending
  | argument :: rest =>
    match operator? argument with
    | none => .operand
    | some (text, family) =>
      if family = .unary && isOperand rest || text = "(" && rest.isEmpty then .operand
      else .operator text family

/-- **What a condition is judged by**, beside its texts. -/
structure Surroundings where
  /-- What a letter says of a file. -/
  file : Char → Bytes → Bool
  /-- Whether two names are those of one file. -/
  same : Bytes → Bytes → Bool

/-- A complaint about an operand. -/
def complaint (argument : Bytes) (text : String) : Bytes :=
  if argument.isEmpty then text.toList else argument ++ ": ".toList ++ text.toList

/-- The number that an operand is. -/
def number (argument : Bytes) : Except Bytes Int :=
  match Numeral.whole? 10 argument with
  | some n => .ok n
  | none => .error ("Illegal number: ".toList ++ argument)

/-- Judges an operator with one operand. -/
def unary (s : Surroundings) (text : String) (operand : Bytes) : Except Bytes Bool :=
  match text with
  | "-z" => .ok operand.isEmpty
  | "-n" => .ok (!operand.isEmpty)
  | "-t" => do
    let _ ← number operand
    return false
  | _ => .ok (s.file ((text.toList.drop 1).headD ' ') operand)

/-- Judges an operator with two operands. -/
def binary (s : Surroundings) (text : String) (a b : Bytes) : Except Bytes Bool :=
  let compare (f : Int → Int → Bool) : Except Bytes Bool := do
    let m ← number a
    let n ← number b
    return f m n
  match text with
  | "=" => .ok (a = b)
  | "!=" => .ok (a ≠ b)
  | "<" => .ok (a < b)
  | ">" => .ok (b < a)
  | "-eq" => compare fun m n => m = n
  | "-ne" => compare fun m n => m ≠ n
  | "-ge" => compare fun m n => n ≤ m
  | "-gt" => compare fun m n => n < m
  | "-le" => compare fun m n => m ≤ n
  | "-lt" => compare fun m n => m < n
  | "-ef" => .ok (s.same a b)
  | _ => .ok false

/-- What judging gives: the truth, and the arguments from the last one on that counts. -/
abbrev Judged := Except Bytes (Bool × List Bytes)

/-- **Judges an operand**, or an operator with its operands. `inside` judges what
stands in parentheses. -/
def primary (s : Surroundings) (inside : Role → List Bytes → Judged) (r : Role)
    (arguments : List Bytes) : Judged :=
  match r with
  | .ending => .ok (false, arguments)
  | .operator "(" _ =>
    let rest := arguments.drop 1
    match role rest with
    | .operator ")" _ => .ok (false, rest)
    | r => do
      let (truth, rest) ← inside r rest
      match role (rest.drop 1) with
      | .operator ")" _ => return (truth, rest.drop 1)
      | _ => .error "closing paren expected".toList
  | .operator text .unary =>
    match arguments.drop 1 with
    | [] => .error (complaint text.toList "argument expected")
    | operand :: rest => do return (← unary s text operand, operand :: rest)
  | _ =>
    match role (arguments.drop 1) with
    | .operator text .binary =>
      match arguments with
      | a :: _ :: b :: rest => do return (← binary s text a b, b :: rest)
      | _ => .error (complaint text.toList "argument expected")
    | _ => .ok (!(arguments.headD []).isEmpty, arguments)

section

variable (s : Surroundings) (inside : Role → List Bytes → Judged)

/-- Judges what may be negated. -/
def negation : Nat → Role → List Bytes → Judged
  | 0, _, arguments => .ok (false, arguments)
  | fuel + 1, r, arguments =>
    match r with
    | .operator _ .negation => do
      let rest := arguments.drop 1
      let r := role rest
      let (truth, rest) ← negation fuel r (if r = .ending then arguments else rest)
      return (!truth, rest)
    | _ => primary s inside r arguments

/-- Judges conditions that all have to be true. -/
def conjunction : Nat → Role → List Bytes → Judged
  | 0, _, arguments => .ok (false, arguments)
  | fuel + 1, r, arguments => do
    let (truth, rest) ← negation s inside (fuel + 1) r arguments
    match role (rest.drop 1) with
    | .operator "-a" _ =>
      let (more, rest) ← conjunction fuel (role (rest.drop 2)) (rest.drop 2)
      return (truth && more, rest)
    | _ => return (truth, rest)

end

/-- **Judges a condition** of no more than `fuel` arguments. -/
def condition (s : Surroundings) : Nat → Role → List Bytes → Judged
  | 0, _, arguments => .ok (false, arguments)
  | fuel + 1, r, arguments => do
    let (truth, rest) ← conjunction s (condition s fuel) (fuel + 1) r arguments
    match role (rest.drop 1) with
    | .operator "-o" _ =>
      let (more, rest) ← condition s fuel (role (rest.drop 2)) (rest.drop 2)
      return (truth || more, rest)
    | _ => return (truth, rest)

/-- Judges all of some arguments as one condition. -/
def whole (s : Surroundings) (r : Role) (arguments : List Bytes) : Except Bytes Bool := do
  let (truth, rest) ← condition s (2 * arguments.length + 2) r arguments
  match rest with
  | argument :: _ :: _ => .error (complaint argument "unexpected operator")
  | _ => return truth

/-- Judges arguments with the rules that hold for three and four of them. A negation in
front of so many negates the whole, however many there are. -/
def judgeWith (s : Surroundings) (negated : Bool) : List Bytes → Except Bytes Bool
  | [] => .ok negated
  | [a, b, c] =>
    if isOperator .binary b then (whole s .operand [a, b, c]).map (xor negated)
    else if a = ['('] && c = [')'] then (whole s (role [b]) [b]).map (xor negated)
    else if a = ['!'] then judgeWith s true [b, c]
    else (whole s (role [a, b, c]) [a, b, c]).map (xor negated)
  | [a, b, c, d] =>
    if a = ['('] && d = [')'] then (whole s (role [b, c]) [b, c]).map (xor negated)
    else if a = ['!'] then judgeWith s true [b, c, d]
    else (whole s (role [a, b, c, d]) [a, b, c, d]).map (xor negated)
  | arguments => (whole s (role arguments) arguments).map (xor negated)

/-- **Judges arguments.** -/
def judge (s : Surroundings) (arguments : List Bytes) : Except Bytes Bool :=
  judgeWith s false arguments

end SnapBlocks.Host.Shell.Condition

import SnapBlocks.Board.Walk
import SnapBlocks.Program.Token

/-!
# From blocks to a program

A chain of blocks is a sequence of statements. Each block but an expression
stands for one line, in which the attached argument, or a placeholder, appears
as text; a nest goes on with the lines of its body, one level deeper, or with
`pass` where the body is empty. An expression is written as its code alone.

The program of a board is that of its only head. The links are followed without
a limit of their own: `Board.emit` goes at most as deep as there are blocks, and
links that lead deeper run in a circle.
-/

namespace SnapBlocks

/-- The tokens of a body without blocks. -/
def emptyBody : List Token := [.line, .text "pass\n"]

/-- **The tokens of a single block**, given those of its argument and of its body. -/
def Kind.statement (kind : Kind) (code : String) (argument body : List Token) : List Token :=
  match kind with
  | .expression => [.text code]
  | .apply => [.line, .text code, .text "("] ++ argument ++ [.text ")\n"]
  | .assign => [.line, .text code, .text " = "] ++ argument ++ [.text "\n"]
  | .call => [.line, .text code, .text "()\n"]
  | .nest .definition =>
    [.line, .text "def ", .text code, .text "("] ++ argument ++ [.text "):\n", .indent] ++ body ++
      [.dedent]
  | .nest .conditional | .nest .classBody =>
    [.line, .text code, .text " "] ++ argument ++ [.text ":\n", .indent] ++ body ++ [.dedent]

namespace Board

/-- The tokens of a block and, where `follow` says so, of its successors. No more
than `fuel` blocks may lie above one another. -/
def emit (b : Board) : Nat → Bool → Option BlockId → Except Fault (List Token)
  | _, _, none => .ok []
  | 0, _, some _ => .error .endless
  | fuel + 1, follow, some id => do
    let block ← b.fetch id
    let argument ←
      if !block.kind.takesArgument then pure []
      else if block.links.argument.isNone then pure [.text block.kind.placeholder]
      else b.emit fuel false block.links.argument
    let body ←
      if !block.kind.hasBody then pure []
      else if block.links.body.isNone then pure emptyBody
      else b.emit fuel true block.links.body
    let rest ← if follow then b.emit fuel true block.links.next else pure []
    return .enter id :: block.kind.statement block.code argument body ++ rest

/-- **The tokens of the chain that starts with a block.** -/
def tokens (b : Board) (start : Option BlockId) : Except Fault (List Token) :=
  b.emit (b.size + 1) true start

/-- **The page of several chains**, printed one after another. -/
def listing (b : Board) (starts : List (Option BlockId)) : Except Fault Page := do
  return Page.empty.print (← starts.mapM b.tokens).flatten

/-- **The program of the board**, if it has exactly one head. -/
def program? (b : Board) : Except Fault (Option String) :=
  match b.head? with
  | none => .ok none
  | some head => (b.listing [some head]).map (some ·.text)

end Board

end SnapBlocks

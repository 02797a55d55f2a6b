import Offside.Source
import Offside.Syntax.Line

/-!
# Blocks from indentation

Lines are placed one after the other into an outline. Before a line is placed,
every open block is closed whose header stands at the indent of the line or
further right; what is still open encloses the line. A header opens a block,
and a closed block becomes a statement of the body around it, or one more
branch of the conditional statement that ends that body.
-/

namespace Offside

/-- Why a line cannot be placed. -/
inductive OutlineFault where
  | parse (error : ParseError)
  | danglingBranch (keyword : String)
  | outsideLoop (keyword : String)
  | tooDeeplyNested (limit : Nat)

/-- The text of a fault. -/
def OutlineFault.message : OutlineFault → String
  | parse error => error.message
  | danglingBranch keyword => s!"'{keyword}' without a matching 'if'"
  | outsideLoop keyword => s!"'{keyword}' outside loop"
  | tooDeeplyNested limit => s!"blocks nested more than {limit} levels deep"

/-- A fault on a numbered line. -/
structure OutlineError where
  line : Nat
  fault : OutlineFault

namespace OutlineError

/-- The message of an error. -/
def message (error : OutlineError) : String :=
  s!"Syntax error on line {error.line}: {error.fault.message}"

/-- The number of characters of the trimmed line before the place of an error that has one. -/
def column? (error : OutlineError) : Option Nat :=
  match error.fault with
  | .parse error => error.column?
  | .danglingBranch _ | .outsideLoop _ | .tooDeeplyNested _ => none

end OutlineError

/-- A block whose body may still grow. -/
structure OpenBlock where
  /-- The indent of the header. -/
  indent : Nat
  /-- The number of the header's line. -/
  line : Nat
  header : Header
  /-- The statements of the body, latest first. -/
  body : List Statement

namespace OpenBlock

/-- The body around a block, latest statement first, with one more piece of the chain of
the conditional statement at its end. -/
def extendChain (block : OpenBlock) (rest : Chain) :
    List Statement → Except OutlineError (List Statement)
  | .conditional chain :: earlier =>
      match chain.extend? rest with
      | some longer => .ok (.conditional longer :: earlier)
      | none => .error ⟨block.line, .danglingBranch block.header.keyword⟩
  | _ => .error ⟨block.line, .danglingBranch block.header.keyword⟩

/-- The body around a block, latest statement first, with the closed block made part of it. -/
def joinTo (block : OpenBlock) (around : List Statement) :
    Except OutlineError (List Statement) :=
  let body := block.body.reverse
  match block.header with
  | .forEach target iterable => .ok (.forEach target iterable body :: around)
  | .whileLoop condition => .ok (.whileLoop condition body :: around)
  | .branch condition => .ok (.conditional (.branch condition body .done) :: around)
  | .elseBranch condition => block.extendChain (.branch condition body .done) around
  | .otherwise => block.extendChain (.otherwise body) around

end OpenBlock

/-- The lines placed so far. -/
structure Outline where
  /-- The statements outside all open blocks, latest first. -/
  root : List Statement
  /-- The open blocks, innermost first. -/
  blocks : List OpenBlock
  /-- The number of blocks that have been opened. -/
  opened : Nat
  /-- The number of blocks that have been closed. -/
  closed : Nat

namespace Outline

/-- The most blocks that may be open at once. -/
def mostBlocks : Nat := 100

/-- The outline of no lines. -/
def empty : Outline := ⟨[], [], 0, 0⟩

/-- The body that the next statement belongs to, latest statement first. -/
def body (outline : Outline) : List Statement :=
  match outline.blocks with
  | [] => outline.root
  | block :: _ => block.body

/-- The outline with another body in the place of `body`. -/
def withBody (outline : Outline) (body : List Statement) : Outline :=
  match outline.blocks with
  | [] => { outline with root := body }
  | block :: outer => { outline with blocks := { block with body } :: outer }

/-- The body is what it was made. -/
@[simp]
theorem body_withBody (outline : Outline) (body : List Statement) :
    (outline.withBody body).body = body := by
  obtain ⟨_, blocks, _, _⟩ := outline
  cases blocks <;> rfl

/-- Changing the innermost body leaves as many blocks open. -/
@[simp]
theorem length_blocks_withBody (outline : Outline) (body : List Statement) :
    (outline.withBody body).blocks.length = outline.blocks.length := by
  obtain ⟨_, blocks, _, _⟩ := outline
  cases blocks <;> rfl

/-- Adds a statement to the body. -/
def append (outline : Outline) (statement : Statement) : Outline :=
  outline.withBody (statement :: outline.body)

/-- Whether the body ends in a conditional statement that more branches can follow. -/
def awaitsBranch (outline : Outline) : Bool :=
  match outline.body with
  | .conditional chain :: _ => chain.isOpen
  | _ => false

/-- Closes `block` and then the blocks around it, innermost first, as long as they stand
at `indent` or further right. -/
def closeBlock (indent : Nat) (outline : Outline) (block : OpenBlock) :
    List OpenBlock → Except OutlineError Outline
  | [] =>
      if indent ≤ block.indent then do
        let root ← block.joinTo outline.root
        .ok { outline with root, blocks := [], closed := outline.closed + 1 }
      else .ok { outline with blocks := [block] }
  | around :: outer =>
      if indent ≤ block.indent then do
        let body ← block.joinTo around.body
        let outline := { outline with closed := outline.closed + 1 }
        closeBlock indent outline { around with body } outer
      else .ok { outline with blocks := block :: around :: outer }

/-- Closes the open blocks that stand at `indent` or further right, innermost first. -/
def closeFrom (indent : Nat) (outline : Outline) : Except OutlineError Outline :=
  match outline.blocks with
  | [] => .ok outline
  | block :: outer => closeBlock indent outline block outer

/-- Whether some open block is a loop. -/
def inLoop (outline : Outline) : Bool :=
  outline.blocks.any (·.header.isLoop)

/-- Opens the block of a header that stands on `line`. -/
def openBlock (outline : Outline) (line : SourceLine) (header : Header) :
    Except OutlineError Outline :=
  if header.isContinuation && !outline.awaitsBranch then
    .error ⟨line.number, .danglingBranch header.keyword⟩
  else if mostBlocks ≤ outline.blocks.length then
    .error ⟨line.number, .tooDeeplyNested mostBlocks⟩
  else
    .ok { outline with
      blocks := ⟨line.indent, line.number, header, []⟩ :: outline.blocks
      opened := outline.opened + 1 }

/-- The word of a statement that only a loop may hold. -/
def loopWord? : Statement → Option String
  | .stop => some "break"
  | .next => some "continue"
  | _ => none

/-- Adds the statement that stands on `line`. -/
def addStatement (outline : Outline) (line : SourceLine) (statement : Statement) :
    Except OutlineError Outline :=
  match loopWord? statement with
  | some word =>
      if outline.inLoop then .ok (outline.append statement)
      else .error ⟨line.number, .outsideLoop word⟩
  | none => .ok (outline.append statement)

/-- Places a line that says something. -/
def place (outline : Outline) (line : SourceLine) : Except OutlineError Outline := do
  let outline ← outline.closeFrom line.indent
  match Line.ofText (String.ofList line.trimmed) line.number with
  | .ok (.header header) => outline.openBlock line header
  | .ok (.simple statement) => outline.addStatement line statement
  | .error error => .error ⟨line.number, .parse error⟩

/-- Places lines in their order and closes all blocks at the end. -/
def ofLines (lines : List SourceLine) : Except OutlineError Outline := do
  (← lines.foldlM place empty).closeFrom 0

end Outline

/-- A program with the number of blocks that its text opened and closed. -/
structure BlockTree where
  program : Program
  opened : Nat
  closed : Nat

/-- The program that a source text stands for. -/
def BlockTree.ofSource (source : String) : Except OutlineError BlockTree := do
  let outline ← Outline.ofLines (Source.codeLines source)
  .ok ⟨outline.root.reverse, outline.opened, outline.closed⟩

end Offside

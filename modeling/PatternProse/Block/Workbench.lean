import PatternProse.Block.Document
import PatternProse.Block.Pattern
import PatternProse.Json.Printer

/-!
# The workbench

A list of blocks that is worked on at its end, one step after the other.

## Main definitions

* `Workbench` — the blocks, the last one being the one to work on next.
* `Step`, `Workbench.perform` — a step and what it does.
* `Workbench.run` — what several steps do, one after the other.
-/

namespace PatternProse.Block

/-- Blocks to work on, the last one first to be worked on. -/
structure Workbench where
  blocks : List Block := []
  deriving Repr, BEq

/-- How blocks are brought together under a new one. -/
inductive Wrapping
  | group
  | alternatives
  | lookaround (kind : Lookaround)
  deriving Repr, DecidableEq

/-- The block that brings some blocks together. -/
def Wrapping.block (children : List Block) : Wrapping → Block
  | group => .group children
  | alternatives => .alternatives children
  | lookaround k => .lookaround k children

/-- A step of work. -/
inductive Step
  | push (block : Block)
  /-- Takes a fresh block of the kind with a name. -/
  | pick (name : String)
  /-- Brings the last blocks together, or all if there are fewer. -/
  | wrap (wrapping : Wrapping) (count : Nat)
  /-- Repeats the last block as a token says. -/
  | quantify (token : String)
  | duplicate
  | drop
  /-- Writes the blocks as a document and reads it. -/
  | reload
  /-- A step that is not known, which does nothing. -/
  | unknown
  deriving Repr, BEq

/-- What there is to say about a step. -/
inductive Note
  | unknownStep
  | unknownKind
  | emptyStack
  | notQuantifier
  /-- The document has been read, with the same blocks or not. -/
  | reloaded (same : Bool)
  | refused (cause : InvalidBlocks)
  deriving Repr, DecidableEq

namespace Workbench

/-- The block to work on next. -/
def top? (w : Workbench) : Option Block := w.blocks.getLast?

/-- Adds a block. -/
def push (w : Workbench) (b : Block) : Workbench := ⟨w.blocks ++ [b]⟩

/-- Brings the last blocks together. -/
def wrap (w : Workbench) (wrapping : Wrapping) (count : Nat) : Workbench :=
  let kept := w.blocks.length - count
  ⟨w.blocks.take kept ++ [wrapping.block (w.blocks.drop kept)]⟩

/-- The text of the document of the blocks. -/
def document (w : Workbench) : String := (documentOf w.blocks).compact

/-- What a step does, and what there is to say about it. -/
def perform (w : Workbench) : Step → Workbench × Option Note
  | .push b => (w.push b, none)
  | .pick name =>
    match palette.find? (·.kind.name == name) with
    | some b => (w.push b, none)
    | none => (w, some .unknownKind)
  | .wrap wrapping count => (w.wrap wrapping count, none)
  | .quantify token =>
    match w.top?, Quantifier.ofToken? token with
    | none, _ => (w, some .emptyStack)
    | some _, none => (w, some .notQuantifier)
    | some b, some q => (⟨w.blocks.dropLast ++ [repetition q (some b)]⟩, none)
  | .duplicate =>
    match w.top? with
    | some b => (w.push b, none)
    | none => (w, some .emptyStack)
  | .drop => (⟨w.blocks.dropLast⟩, none)
  | .reload =>
    match ofDocument? w.document with
    | .ok bs => (⟨bs⟩, some (.reloaded (bs == w.blocks)))
    | .error p => (w, some (.refused (.document p)))
  | .unknown => (w, some .unknownStep)

/-- What steps do one after the other: the workbench after each of them, and what there is to say
about it. -/
def run (w : Workbench) : List Step → List (Workbench × Option Note)
  | [] => []
  | s :: ss => w.perform s :: run (w.perform s).1 ss

end Workbench

end PatternProse.Block

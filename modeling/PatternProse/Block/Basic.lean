import PatternProse.Block.Kind

/-!
# Blocks

Blocks are the pieces that a pattern is put together from. Some of them hold other blocks, so a
list of blocks is a list of trees.

## Main definitions

* `Block` — a block with all that it holds.
* `Block.Settings` — what one may choose about a block besides its kind.
* `Block.palette` — a fresh block of each kind.
-/

namespace PatternProse

/-- A piece of a pattern. -/
inductive Block
  | literal (text : String)
  | symbol (symbol : Symbol)
  | repetition (quantifier : Quantifier) (body : Option Block)
  | group (children : List Block)
  | alternatives (children : List Block)
  | characterClass (negated : Bool) (characters : String)
  | lookaround (kind : Lookaround) (children : List Block)
  deriving Repr, BEq

namespace Block

/-- The kind of a block. -/
def kind : Block → Kind
  | literal _ => .literal
  | symbol s => .symbol s
  | repetition q _ => .repetition q.form
  | group _ => .group
  | alternatives _ => .alternatives
  | characterClass negated _ => .characterClass negated
  | lookaround k _ => .lookaround k

/-- The quantifier that a block applies. -/
def quantifier? : Block → Option Quantifier
  | repetition q _ => some q
  | _ => none

/-- What one may choose about a block besides its kind. A block has only some of these settings;
the defaults are those of a fresh block. -/
structure Settings where
  text : String := ""
  characters : String := "a-z"
  count : UInt32 := 1
  min : UInt32 := 1
  max : UInt32 := 3
  deriving Repr, DecidableEq

end Block

/-- The quantifier of a form with the counts of some settings. -/
def Quantifier.Form.quantifier (settings : Block.Settings) : Form → Quantifier
  | zeroOrMore => .zeroOrMore
  | oneOrMore => .oneOrMore
  | zeroOrOne => .zeroOrOne
  | exactly => .exactly settings.count
  | atLeast => .atLeast settings.min
  | between => .between settings.min settings.max

namespace Block

/-- The block of a kind with some settings and children, as far as the kind has room for them. -/
def ofKind (settings : Settings) (children : List Block) : Kind → Block
  | .literal => literal settings.text
  | .symbol s => symbol s
  | .repetition form => repetition (form.quantifier settings) children.head?
  | .group => group children
  | .alternatives => alternatives children
  | .characterClass negated => characterClass negated settings.characters
  | .lookaround k => lookaround k children

/-- The blocks that a block holds. -/
def children : Block → List Block
  | repetition _ body => body.toList
  | group bs | alternatives bs | lookaround _ bs => bs
  | literal _ | symbol _ | characterClass _ _ => []

/-- A fresh block of each kind. -/
def palette : List Block := Kind.all.map (ofKind {} [])

theorem kind_ofKind (settings : Settings) (children : List Block) (kind : Kind) :
    (ofKind settings children kind).kind = kind := by
  cases kind with
  | repetition form => cases form <;> rfl
  | _ => rfl

end Block

end PatternProse

import PatternProse.Block.Trial
import PatternProse.Block.Workbench
import PatternProse.Main
import PatternProse.Proofs.Block.Bars
import PatternProse.Proofs.Block.CharacterClass
import PatternProse.Proofs.Block.Groups
import PatternProse.Proofs.Block.Literal
import PatternProse.Proofs.Block.LiteralScan
import PatternProse.Proofs.Block.Outline
import PatternProse.Proofs.Block.Rearrangement
import PatternProse.Proofs.Block.Refusal
import PatternProse.Proofs.Block.RoundTrip
import PatternProse.Proofs.Block.Sequence
import PatternProse.Proofs.Block.Validity
import PatternProse.Proofs.Block.Wrapping
import PatternProse.Proofs.Bytewise.Library
import PatternProse.Proofs.Cli.Run
import PatternProse.Proofs.Quantifier.RoundTrip
import PatternProse.Proofs.Regex.Selection
import PatternProse.Proofs.Scan.Balance
import PatternProse.Proofs.Scan.Composition
import PatternProse.Proofs.Scan.Coverage
import PatternProse.Proofs.Scan.Depth
import PatternProse.Proofs.Scan.Groups
import PatternProse.Proofs.Scan.Items
import PatternProse.Proofs.Scan.Repetition

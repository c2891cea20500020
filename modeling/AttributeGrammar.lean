import AttributeGrammar.Journal
import AttributeGrammar.Main
import AttributeGrammar.Proofs.Analysis.Conflict
import AttributeGrammar.Samples.Catalog
import AttributeGrammar.Proofs.Scan.Stream
import AttributeGrammar.Proofs.Scan.Calls
import AttributeGrammar.Proofs.Scan.Partition
import AttributeGrammar.Proofs.Synthesis.Run
import AttributeGrammar.Proofs.Synthesis.Walk
import AttributeGrammar.Proofs.Synthesis.Depth
import AttributeGrammar.Proofs.Synthesis.Return
import AttributeGrammar.Proofs.Language.Derivation
import AttributeGrammar.Proofs.Language.Prediction
import AttributeGrammar.Proofs.Language.Tree
import AttributeGrammar.Proofs.Language.Progress
import AttributeGrammar.Proofs.Code.Name
import AttributeGrammar.Proofs.Grammar.WellFormed
import AttributeGrammar.Proofs.Grammar.Resolved
import AttributeGrammar.Proofs.Description.Rendering
import AttributeGrammar.Proofs.Description.Reading
import AttributeGrammar.Proofs.Description.Redisplay
import AttributeGrammar.Proofs.Synthesis.Emission
import AttributeGrammar.Proofs.Synthesis.Body
import AttributeGrammar.Proofs.Synthesis.Dispatch
import AttributeGrammar.Proofs.Synthesis.Correspondence
import AttributeGrammar.Proofs.Synthesis.Recursion
import AttributeGrammar.Proofs.Synthesis.Parse
import AttributeGrammar.Proofs.Synthesis.Correctness
import AttributeGrammar.Proofs.Language.Rewriting
import AttributeGrammar.Proofs.Analysis.Exactness
import AttributeGrammar.Proofs.Analysis.LL1
import AttributeGrammar.Proofs.Language.Ambiguity
import AttributeGrammar.Proofs.Grammar.Exporting
import AttributeGrammar.Proofs.Grammar.Propagation
import AttributeGrammar.Proofs.Grammar.Merging
import AttributeGrammar.Proofs.Grammar.Calls
import AttributeGrammar.Proofs.Grammar.Building
import AttributeGrammar.Proofs.Synthesis.Closure
import AttributeGrammar.Proofs.Synthesis.Copies
import AttributeGrammar.Proofs.Synthesis.Selection
import AttributeGrammar.Proofs.Synthesis.Delivery
import AttributeGrammar.Proofs.Scan.Anchoring
import AttributeGrammar.Proofs.Description.Interleaving
import AttributeGrammar.Proofs.Description.Location
import AttributeGrammar.Proofs.Synthesis.Scoping
import AttributeGrammar.Proofs.Description.References
import AttributeGrammar.Proofs.Synthesis.Terminals
import AttributeGrammar.Proofs.Synthesis.Rejection
import AttributeGrammar.Proofs.Samples.Expression
import AttributeGrammar.Proofs.Samples.Scanning
import AttributeGrammar.Proofs.Samples.Listing
import AttributeGrammar.Proofs.Samples.Evaluation
import AttributeGrammar.Proofs.Analysis.Splitting
import AttributeGrammar.Proofs.Analysis.Passes
import AttributeGrammar.Proofs.Analysis.Nullability
import AttributeGrammar.Proofs.Grammar.Visits
import AttributeGrammar.Proofs.Code.Spelling
import AttributeGrammar.Proofs.Synthesis.Variants

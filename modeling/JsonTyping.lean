import JsonTyping.Ast.Encoding
import JsonTyping.Maybe
import JsonTyping.Proofs.Absence
import JsonTyping.Proofs.AnnotatedTrees
import JsonTyping.Proofs.Annotations
import JsonTyping.Proofs.Chains
import JsonTyping.Proofs.Classification
import JsonTyping.Proofs.Collisions
import JsonTyping.Proofs.Composition
import JsonTyping.Proofs.Containers
import JsonTyping.Proofs.Decoding
import JsonTyping.Proofs.Defaults
import JsonTyping.Proofs.Dictionaries
import JsonTyping.Proofs.Equivalence
import JsonTyping.Proofs.Erasure
import JsonTyping.Proofs.Filtering
import JsonTyping.Proofs.Idempotence
import JsonTyping.Proofs.IntegerConversions
import JsonTyping.Proofs.IntegerTests
import JsonTyping.Proofs.Interchange
import JsonTyping.Proofs.Laxness
import JsonTyping.Proofs.Members
import JsonTyping.Proofs.Merging
import JsonTyping.Proofs.Names
import JsonTyping.Proofs.Nodes
import JsonTyping.Proofs.NormalForms
import JsonTyping.Proofs.Preservation
import JsonTyping.Proofs.Recovery
import JsonTyping.Proofs.Relaxation
import JsonTyping.Proofs.Reports
import JsonTyping.Proofs.Screening
import JsonTyping.Proofs.Undefined
import JsonTyping.Proofs.UuidTexts
import JsonTyping.Proofs.Views
import JsonTyping.Standard
import JsonTyping.Ty.Description
import JsonTyping.Ty.Equality
import JsonTyping.Value.Reader

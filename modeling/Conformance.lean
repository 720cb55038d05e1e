import Conformance.Main
import Conformance.Proofs.Exempting
import Conformance.Proofs.Walk
import Conformance.Proofs.Defects
import Conformance.Proofs.Ending
import Conformance.Proofs.Isolation
import Conformance.Proofs.Project.Emitting
import Conformance.Proofs.Project.Loading
import Conformance.Proofs.Project.Signature
import Conformance.Proofs.Run.Touching
import Conformance.Proofs.Solution.Repeat
import Conformance.Proofs.Solution.Undoing
import Conformance.Proofs.Documents
import Conformance.Proofs.Project.Showing
import Conformance.Proofs.Run.Rebasing
import Conformance.Proofs.Run.Refusing
import Conformance.Proofs.Run.Agreement
import Conformance.Proofs.Session
import Conformance.Proofs.Merging
import Conformance.Proofs.Rule.PlainString
import Conformance.Proofs.Exemption.Shape
import Conformance.Proofs.Exemption.Settling
import Conformance.Proofs.Project.Keeping
import Conformance.Proofs.Project.Confining
import Conformance.Proofs.Project.Excluding
import Conformance.Proofs.Text.Overflow
import Conformance.Proofs.Exemption.Locating
import Conformance.Proofs.Exemption.Keying
import Conformance.Proofs.Tree.Recognizing
import Conformance.Proofs.Fingerprint
import Conformance.Proofs.Exemption.Directories
import Conformance.Proofs.Glob.Starred
import Conformance.Proofs.Path.Resolving
import Conformance.Proofs.Project.Rooting
import Conformance.Proofs.Project.Recording
import Conformance.Proofs.Project.Enumerating
import Conformance.Proofs.Annotation
import Conformance.Proofs.Rule.Exactness
import Conformance.Proofs.Tree.Flattening

import PatchCompiler.Main
import PatchCompiler.Platform.Naming
import PatchCompiler.Proofs.Addresses
import PatchCompiler.Proofs.ArgumentLines
import PatchCompiler.Proofs.BoardParameters
import PatchCompiler.Proofs.Bookkeeping
import PatchCompiler.Proofs.BoxArguments
import PatchCompiler.Proofs.Chains
import PatchCompiler.Proofs.Declarations
import PatchCompiler.Proofs.Dollars
import PatchCompiler.Proofs.Feedback
import PatchCompiler.Proofs.FanIn
import PatchCompiler.Proofs.FusedValues
import PatchCompiler.Proofs.Hashing
import PatchCompiler.Proofs.Initialisation
import PatchCompiler.Proofs.PoolHistory
import PatchCompiler.Proofs.Reading
import PatchCompiler.Proofs.Reports
import PatchCompiler.Proofs.Resolution
import PatchCompiler.Proofs.SignalReduction
import PatchCompiler.Proofs.Strays
import PatchCompiler.Proofs.Transparency
import PatchCompiler.Proofs.Undisturbed
import PatchCompiler.Proofs.Unwrapping
import PatchCompiler.Proofs.Urgency

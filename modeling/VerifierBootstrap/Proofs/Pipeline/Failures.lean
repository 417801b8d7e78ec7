import VerifierBootstrap.Proofs.Engine.Segments
import VerifierBootstrap.Proofs.Pipeline.Course

/-!
Runs that fail. A stage ahead of the witness ends the run with its own failure: the prover is not
run, and of the files only the work directory is new. Once the prover has run, its status and the
output that it has left decide, and nothing is asked for again.
-/

namespace VerifierBootstrap.Pipeline

open VerifierBootstrap.Action Witness

variable {pipeline : Pipeline} {host entered : Host} {devMode : DevMode}

-----------------------------------------------------------------------------------------
-- The stages ahead of the prover
-----------------------------------------------------------------------------------------

end VerifierBootstrap.Pipeline

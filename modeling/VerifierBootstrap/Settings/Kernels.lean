import VerifierBootstrap.Failure
import VerifierBootstrap.Settings.Machine

/-!
Kernels for accelerators. A build with a feature for an accelerator needs the path of its
kernel, and passes it on under another name.
-/

namespace VerifierBootstrap

/-- The settings of an accelerator: its feature, the path of its kernel, and the name under
which the path is passed on.
-/
structure Accelerator where
  feature : String
  kernel : String
  exported : String
deriving Repr, DecidableEq

namespace Accelerator

/-- The accelerators that a build may ask for. -/
def all : List Accelerator :=
  [⟨"CARGO_FEATURE_CUDA", "DEP_RISC0_CIRCUIT_RECURSION_SYS_CUDA_KERNEL", "RECURSION_CUDA_PATH"⟩,
   ⟨"CARGO_FEATURE_METAL", "DEP_RISC0_CIRCUIT_RECURSION_SYS_METAL_KERNEL",
     "RECURSION_METAL_PATH"⟩]

/-- What to pass on for an accelerator: nothing without its feature. -/
def exports (environment : Environment) (accelerator : Accelerator)
    : Except Failure Environment :=
  if environment.has accelerator.feature then
    match environment.filled? accelerator.kernel with
    | some path => .ok [(accelerator.exported, path)]
    | none => .error (.config (.kernelPath accelerator.feature accelerator.kernel))
  else .ok []

end Accelerator

/-- The settings to pass on for all accelerators. -/
def kernelPaths (environment : Environment) : Except Failure Environment :=
  (Accelerator.all.mapM (Accelerator.exports environment)).map List.flatten

end VerifierBootstrap

import VerifierBootstrap.Source.Sync

/-!
The constants of the verifying key: the coordinates of its curve points, under their names in
the contract and in the host verifier.
-/

namespace VerifierBootstrap.VerifyingKey

/-- The names of the constants in the contract and in the host verifier, in file order. -/
def names : List (String × String) :=
  [("alphax", "ALPHA_X"), ("alphay", "ALPHA_Y"), ("betax1", "BETA_X1"), ("betax2", "BETA_X2"),
   ("betay1", "BETA_Y1"), ("betay2", "BETA_Y2"), ("gammax1", "GAMMA_X1"),
   ("gammax2", "GAMMA_X2"), ("gammay1", "GAMMA_Y1"), ("gammay2", "GAMMA_Y2"),
   ("deltax1", "DELTA_X1"), ("deltax2", "DELTA_X2"), ("deltay1", "DELTA_Y1"),
   ("deltay2", "DELTA_Y2"), ("IC0x", "IC0_X"), ("IC0y", "IC0_Y"), ("IC1x", "IC1_X"),
   ("IC1y", "IC1_Y"), ("IC2x", "IC2_X"), ("IC2y", "IC2_Y"), ("IC3x", "IC3_X"),
   ("IC3y", "IC3_Y"), ("IC4x", "IC4_X"), ("IC4y", "IC4_Y")]

/-- The constants of the verifying key, in file order. -/
def pairings : List Pairing :=
  names.map fun (source, target) => ⟨source.toList, target.toList⟩

/-- The host verifier with the key of the contract. -/
def synchronize (contract host : Text) : Sync.Result :=
  Sync.synchronize .verifiers contract host pairings

end VerifierBootstrap.VerifyingKey

import ArioProof.CrossKernel.Gateway
import ArioProof.CrossKernel.Inclusion
import ArioProof.Evidence.Simulation

/-! Whole evidence bundles in both kernels. Where the primitives agree, what is
left are the places at which a driver reads a value by itself: the record of a
checkpoint as JSON, the types of an inclusion proof, and an event without an
envelope. -/
namespace ArioProof.CrossKernel

open Foundation

variable {P : Python.Runtime} {T : TypeScript.Runtime}

section Records

/-- The root a record commits to, if it is JSON with a string there. -/
def committedRoot (record : Option Json) : Option Str :=
  (((record.getD .null).get "event").get "merkle_root").str?

end Records

section Rows

variable {cp ev : Json} {checkpoints : List Json} {loads : List Nat → Option Json}
  {parse : Str → Option Json}

end Rows
section Bundles

variable {b : Json}

section Trace

variable {checkpoints events : List Json} {loads : List Nat → Option Json}
  {parse : Str → Option Json}

end Trace

end Bundles
section Sample

open Reference Python

end Sample
end ArioProof.CrossKernel

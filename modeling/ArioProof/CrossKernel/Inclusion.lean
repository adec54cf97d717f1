import ArioProof.CrossKernel.Envelope
import ArioProof.CrossKernel.Merkle
import ArioProof.Python.InclusionShape

/-! The inclusion proof of an event in both kernels. The drivers hand its members
to the walk as they are, each with the conversions of its language, so that a
proof leads to the root in one reading and is turned away in the other. -/
namespace ArioProof.CrossKernel

open Foundation MerkleTree

variable {P : Python.Runtime} {T : TypeScript.Runtime} {ev incl cp : Json}

section Leaf

end Leaf

section Readings

end Readings

section CommonForm

end CommonForm
end ArioProof.CrossKernel

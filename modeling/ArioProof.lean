import ArioProof.CrossKernel.Attestation
import ArioProof.CrossKernel.Content
import ArioProof.CrossKernel.DepthGuard
import ArioProof.CrossKernel.Escapes
import ArioProof.CrossKernel.Evidence
import ArioProof.CrossKernel.ExitCode
import ArioProof.CrossKernel.Gateway
import ArioProof.CrossKernel.HexCodec
import ArioProof.CrossKernel.OperatorKey
import ArioProof.CrossKernel.ProofBundle
import ArioProof.CrossKernel.Signing
import ArioProof.CrossKernel.TraceParts
import ArioProof.Python.Disclosure
import ArioProof.Python.Equivocation
import ArioProof.Python.ExportCheckpoints
import ArioProof.Python.HonestTrace
import ArioProof.Python.InclusionShape
import ArioProof.Python.MerkleProofs
import ArioProof.Python.Redaction
import ArioProof.Python.Signing
import ArioProof.Python.TraceOptions
import ArioProof.Python.TracePosition
import ArioProof.Python.VerdictFields
import ArioProof.TypeScript.AgentOnChain
import ArioProof.TypeScript.CliExport
import ArioProof.TypeScript.ExportRoundTrip

import ArioProof.Evidence.OnChain
import ArioProof.Python.TraceSoundness

/-! On-chain confirmation of a verified trace. -/
namespace ArioProof.Python

open Foundation

variable {R : Runtime}

/-- A gateway has to answer with the canonical bytes of the envelope. -/
theorem expectedBytes_eq_some {cp : Json} {bytes : Bytes} :
    expectedBytes R cp = some bytes ↔ canonicalJson R (cp.get "envelope") = .ok bytes := by
  unfold expectedBytes
  cases canonicalJson R (cp.get "envelope") <;> simp

/-- An answer that confirms two entries shows that their envelopes have the same
canonical bytes, since parsing it and canonicalizing it again gives these
bytes. -/
theorem confirmsOnce (hReparse : R.JcsReparse) : ConfirmsOnce (kernel R) := by
  intro cp cp' first second bytes hFirst hSecond h h'
  replace hFirst := expectedBytes_eq_some.mp hFirst
  replace hSecond := expectedBytes_eq_some.mp hSecond
  have toJcs {u : Json} {out : Bytes} (hu : (kernel R).canonical u = .ok out) : R.jcs u = .ok out :=
    (canonicalJson_eq_ok_iff.mp (kernel_canonical_eq_ok.mp hu)).2
  have hOwn := (canonicalJson_eq_ok_iff.mp hFirst).2
  have hOwn' := (canonicalJson_eq_ok_iff.mp hSecond).2
  rcases h with rfl | ⟨parsed, hLoads, hParsed⟩
  · rcases h' with rfl | ⟨parsed, hLoads, hParsed⟩
    · rfl
    · exact (hReparse _ _ parsed _ hOwn hLoads (toJcs hParsed)).symm
  · rcases h' with rfl | ⟨other, hOther, hCanonical⟩
    · exact hReparse _ _ parsed _ hOwn' hLoads (toJcs hParsed)
    · rw [hLoads] at hOther
      cases hOther
      rw [hParsed] at hCanonical
      cases hCanonical
      rfl

variable {b : Json} {options : Options} {result : EvidenceBundleResult}
  {checkpoints events : List Json}

/-- On-chain verified means on-chain confirmed, for every row, exactly when
every entry is re-fetched through an entry with its own envelope. -/
theorem verified_onChain_iff (hReparse : R.JcsReparse) (b : Json) (options : Options)
    (result : EvidenceBundleResult) (hGateways : options.gateways ≠ [])
    (h : verifyEvidenceBundle R b options = .ok result) (hStatus : result.status = .verified)
    (hType : result.bodyType = some (utf16 anchorTraceBodyType)) :
    (∀ i cp row, ((b.get "body").listAt "checkpoints")[i]? = some cp →
      result.checkpoints[i]? = some row →
        RowConfirmed (kernel R) ((b.get "body").listAt "checkpoints") options i cp row) ↔
    ∀ cp ∈ (b.get "body").listAt "checkpoints",
      ResolvesToOwn (kernel R) ((b.get "body").listAt "checkpoints") cp := by
  obtain ⟨-, checkpoints, events, run⟩ := traceRun_of_verified h hStatus hType
  have hCheckpoints : (b.get "body").listAt "checkpoints" = checkpoints := by
    simp [Json.listAt, run.checkpoints_eq, Json.arr?]
  rw [hCheckpoints]
  have hLen := run.rowsOf.length_eq
  constructor
  · intro hConfirmed cp hMem
    obtain ⟨i, hi, rfl⟩ := List.mem_iff_getElem.mp hMem
    have hi' : i < result.checkpoints.length := hLen ▸ hi
    have hCp := List.getElem?_eq_getElem hi
    have hRow := List.getElem?_eq_getElem hi'
    exact (run.rowConfirmed_iff (confirmsOnce hReparse) hStatus hGateways hCp hRow).mp
      (hConfirmed i _ _ hCp hRow)
  · intro hOwn i cp row hCp hRow
    exact (run.rowConfirmed_iff (confirmsOnce hReparse) hStatus hGateways hCp hRow).mpr
      (hOwn cp (List.mem_of_getElem? hCp))

section Sample

open Reference

/-- One gateway, and what it answers to every request. -/
def oneGateway (answer : Option Bytes) : Options :=
  ⟨[utf16 "https://g"], fun _ => none, some fun _ _ => answer⟩

def singleTraceSigned : Nat × Nat :=
  (0x2d0ca7d3e1169dc96d92a691fad5abe6bd353ca269c423ba6fb58eb752776811,
    0x1dee8ed7d2f4d258ad7dda4822bc1bf273ecacf754bde896444d7f5496525d55c97e0cade35f972bdda3960b2d5bcdd7692c13b787b67570b91a40eca9a1ee04)

/-- A trace of one checkpoint, to be asked for at a gateway. -/
def singleTrace : Json :=
  trace [sampleCheckpoint] []
    0xeed09a4a4200fb303d4efed27eafbad72c9a06a8f1d5f4d47938dec7ef9a144b singleTraceSigned

/-- The canonical bytes of its checkpoint envelope. -/
def singleEnvelopeBytes : Bytes :=
  ((canonicalText (sampleCheckpoint.get "envelope")).getD []).map UInt16.toUInt8

abbrev singleRuntime : Runtime :=
  python (signedWith [sampleCheckpointSigned, singleTraceSigned])

theorem verified_onChain_sample : ∃ result,
    verifyEvidenceBundle singleRuntime singleTrace (oneGateway (some singleEnvelopeBytes)) =
      .ok result ∧
    ((∀ i cp row, ((singleTrace.get "body").listAt "checkpoints")[i]? = some cp →
      result.checkpoints[i]? = some row →
        RowConfirmed (kernel singleRuntime) ((singleTrace.get "body").listAt "checkpoints")
          (oneGateway (some singleEnvelopeBytes)) i cp row) ↔
    ∀ cp ∈ (singleTrace.get "body").listAt "checkpoints",
      ResolvesToOwn (kernel singleRuntime) ((singleTrace.get "body").listAt "checkpoints") cp) := by
  obtain ⟨result, hRun, h⟩ := exists_of_returns (show returns
    (verifyEvidenceBundle singleRuntime singleTrace (oneGateway (some singleEnvelopeBytes)))
      (fun result =>
        result.status = .verified ∧ result.bodyType = some (utf16 anchorTraceBodyType)) = true
    by decide +kernel)
  obtain ⟨hStatus, hType⟩ := of_decide_eq_true h
  exact ⟨result, hRun, verified_onChain_iff jcsReparse singleTrace _ result (by simp [oneGateway]) hRun
    hStatus hType⟩

/-- A checkpoint entry without a transaction id. -/
def bareCheckpoint : Json :=
  .object [("merkle_root", sampleCheckpoint.get "merkle_root"),
    ("envelope", sampleCheckpoint.get "envelope"),
    ("record_bytes", sampleCheckpoint.get "record_bytes")]

def bareTraceSigned : Nat × Nat :=
  (0x4c6e5c46b3dec11076783eaf1f1dfab89501775ab5ce843f182598b2fb83b95d,
    0x301afe1dfeaa5072d417ae342f5c1849f75054a4fadaa2c0140035a39eb9e09bb1886585e710bbc52e3fa28fcf612d82d8aa33f3fba0a6d4e0b8ec315badfd04)

/-- A trace whose only checkpoint has no transaction id. -/
def bareTrace : Json :=
  trace [bareCheckpoint] []
    0xae68f1b241e9838a5e5ba7beca72820afaf115b4e03d1d9336bba4ebb720780d bareTraceSigned

abbrev bareRuntime : Runtime := python (signedWith [sampleCheckpointSigned, bareTraceSigned])

/-- A checkpoint without an id is never fetched and counts as verified all the
same, whatever the gateway would have answered. -/
theorem bareTrace_unconfirmed : ∃ result row,
    verifyEvidenceBundle bareRuntime bareTrace (oneGateway none) = .ok result ∧
    result.status = .verified ∧ result.bodyType = some (utf16 anchorTraceBodyType) ∧
    result.onChainChecked = true ∧ result.checkpoints = [row] ∧ row.onChain = none ∧
    ¬RowConfirmed (kernel bareRuntime) ((bareTrace.get "body").listAt "checkpoints")
      (oneGateway none) 0 bareCheckpoint row := by
  obtain ⟨result, hRun, h⟩ := exists_of_returns (show returns
    (verifyEvidenceBundle bareRuntime bareTrace (oneGateway none)) (fun result =>
        result.status = .verified ∧ result.bodyType = some (utf16 anchorTraceBodyType) ∧
          result.onChainChecked = true ∧ result.checkpoints.map (·.onChain) = [none]) = true
    by decide +kernel)
  obtain ⟨hStatus, hType, hChecked, hRows⟩ := of_decide_eq_true h
  obtain ⟨row, hRows, hNone⟩ := List.map_eq_singleton_iff.mp hRows
  refine ⟨result, row, hRun, hStatus, hType, hChecked, hRows, hNone, fun hConfirmed => ?_⟩
  obtain ⟨onChain, hSome, -⟩ := hConfirmed.rollup
  rw [hNone] at hSome
  cases hSome

end Sample
end ArioProof.Python

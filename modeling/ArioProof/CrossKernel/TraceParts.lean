import ArioProof.Evidence.Parts
import ArioProof.Python.Escapes
import ArioProof.Python.HonestTrace

/-! Traces in another order, and traces joined, in front of either kernel. -/
namespace ArioProof.CrossKernel

open Foundation

variable {ε : Type} {K : Kernel ε} {b b' : Json} {result : EvidenceBundleResult}
  {checkpoints events checkpoints' events' : List Json}

/-- Entries may change places: with checkpoints under distinct transaction ids
and gateways that answer by the URL alone, two traces of the same entries have
the same rows and the same status. -/
theorem trace_order_irrelevant (hb : TraceOf K b checkpoints events)
    (hb' : TraceOf K b' checkpoints' events') (hDistinct : (checkpoints.map rowTxId).Nodup)
    (hCheckpoints : checkpoints.Perm checkpoints') (hEvents : events.Perm events')
    (gateways : List Str) (fetch : Str → Option Bytes) (content : Str → Option SideContent)
    (result result' : EvidenceBundleResult)
    (h : verifyEvidenceBundle K b (.online gateways fetch content) = .ok result)
    (h' : verifyEvidenceBundle K b' (.online gateways fetch content) = .ok result') :
    result.status = result'.status ∧ result.checkpoints.Perm result'.checkpoints ∧
      result.events.Perm result'.events := by
  have run := hb.run h
  have run' := hb'.run h'
  have hDistinct' : (checkpoints'.map rowTxId).Nodup :=
    (hCheckpoints.map rowTxId).nodup_iff.mp hDistinct
  have hRows : result.checkpoints.Perm result'.checkpoints := by
    rw [run.rows_own hDistinct, run'.rows_own hDistinct']
    exact hCheckpoints.map _
  have hEventRows : result.events.Perm result'.events := by
    have hSame : events'.map (eventRow K (firstEntries checkpoints') content) =
        events'.map (eventRow K (firstEntries checkpoints) content) := by
      apply List.map_congr_left
      intro ev _
      apply eventRow_congr
      exact (resolveCheckpoint_part [] hDistinct (by simpa using hCheckpoints)
        (by unfold resolveCheckpoint; split <;> rfl)).symm
    rw [run.eventRows, run'.eventRows]
    exact (hEvents.map _).trans (hSame ▸ List.Perm.refl _)
  refine ⟨?_, hRows, hEventRows⟩
  rw [run.status_online, run'.status_online]
  exact rollupStatus_perm hRows hEventRows

/-- A trace made of two others: their entries in any order, no transaction id
twice, and no event of one that names a checkpoint of the other. -/
structure JoinOf (checkpoints events checkpoints₁ events₁ checkpoints₂ events₂ : List Json) : Prop where
  checkpoints_perm : checkpoints.Perm (checkpoints₁ ++ checkpoints₂)
  events_perm : events.Perm (events₁ ++ events₂)
  distinct : (checkpoints.map rowTxId).Nodup
  apart₁ : ∀ ev ∈ events₁, resolveCheckpoint (firstEntries checkpoints₂) (ev.get "inclusion") = none
  apart₂ : ∀ ev ∈ events₂, resolveCheckpoint (firstEntries checkpoints₁) (ev.get "inclusion") = none

/-- Joining traces joins their rows: the whole fails where a part does, and is
verified where both parts are. Both parts have checkpoints, for one that has none
is partial and would not show in the whole. -/
theorem joined_trace {b₁ b₂ : Json} {checkpoints₁ events₁ checkpoints₂ events₂ : List Json}
    (hb : TraceOf K b checkpoints events) (hb₁ : TraceOf K b₁ checkpoints₁ events₁)
    (hb₂ : TraceOf K b₂ checkpoints₂ events₂)
    (hJoin : JoinOf checkpoints events checkpoints₁ events₁ checkpoints₂ events₂)
    (hSome₁ : checkpoints₁ ≠ []) (hSome₂ : checkpoints₂ ≠ []) (gateways : List Str)
    (fetch : Str → Option Bytes) (content : Str → Option SideContent)
    (result result₁ result₂ : EvidenceBundleResult)
    (h : verifyEvidenceBundle K b (.online gateways fetch content) = .ok result)
    (h₁ : verifyEvidenceBundle K b₁ (.online gateways fetch content) = .ok result₁)
    (h₂ : verifyEvidenceBundle K b₂ (.online gateways fetch content) = .ok result₂) :
    result.checkpoints.Perm (result₁.checkpoints ++ result₂.checkpoints) ∧
    result.events.Perm (result₁.events ++ result₂.events) ∧
    (result.status = .failed ↔ result₁.status = .failed ∨ result₂.status = .failed) ∧
    (result.status = .verified ↔ result₁.status = .verified ∧ result₂.status = .verified) := by
  have run := hb.run h
  have run₁ := hb₁.run h₁
  have run₂ := hb₂.run h₂
  have hParts : ((checkpoints₁ ++ checkpoints₂).map rowTxId).Nodup :=
    (hJoin.checkpoints_perm.map rowTxId).nodup_iff.mp hJoin.distinct
  rw [List.map_append] at hParts
  have hDistinct₁ : (checkpoints₁.map rowTxId).Nodup := hParts.of_append_left
  have hDistinct₂ : (checkpoints₂.map rowTxId).Nodup := hParts.of_append_right
  have hRows : result.checkpoints.Perm (result₁.checkpoints ++ result₂.checkpoints) := by
    rw [run.rows_own hJoin.distinct, run₁.rows_own hDistinct₁, run₂.rows_own hDistinct₂,
      ← List.map_append]
    exact hJoin.checkpoints_perm.map _
  have hEvents : result.events.Perm (result₁.events ++ result₂.events) := by
    have hOwn₁ : events₁.map (eventRow K (firstEntries checkpoints) content) = result₁.events := by
      rw [run₁.eventRows]
      apply List.map_congr_left
      intro ev hev
      exact eventRow_congr (resolveCheckpoint_part _ hJoin.distinct hJoin.checkpoints_perm (hJoin.apart₁ ev hev))
    have hOwn₂ : events₂.map (eventRow K (firstEntries checkpoints) content) = result₂.events := by
      rw [run₂.eventRows]
      apply List.map_congr_left
      intro ev hev
      exact eventRow_congr (resolveCheckpoint_part _ hJoin.distinct
        (hJoin.checkpoints_perm.trans List.perm_append_comm) (hJoin.apart₂ ev hev))
    rw [run.eventRows, ← hOwn₁, ← hOwn₂, ← List.map_append]
    exact hJoin.events_perm.map _
  have hRows₁ : result₁.checkpoints ≠ [] := by
    rw [run₁.rows_own hDistinct₁]
    simpa using hSome₁
  have hRows₂ : result₂.checkpoints ≠ [] := by
    rw [run₂.rows_own hDistinct₂]
    simpa using hSome₂
  refine ⟨hRows, hEvents, ?_⟩
  rw [run.status_online, run₁.status_online, run₂.status_online, rollupStatus_perm hRows hEvents]
  exact rollupStatus_append hRows₁ hRows₂

/-- A part without entries can be joined to any trace, and leaves it as it is. -/
theorem joinOf_empty (hDistinct : (checkpoints.map rowTxId).Nodup) :
    JoinOf checkpoints events checkpoints events [] [] where
  checkpoints_perm := by simp
  events_perm := by simp
  distinct := hDistinct
  apart₁ ev _ := by unfold resolveCheckpoint; split <;> rfl
  apart₂ := by simp

/-- But by itself it is never verified, so that both parts of `joined_trace` need
a checkpoint. -/
theorem status_of_no_checkpoints (hb : TraceOf K b [] events) (gateways : List Str)
    (fetch : Str → Option Bytes) (content : Str → Option SideContent)
    (h : verifyEvidenceBundle K b (.online gateways fetch content) = .ok result) :
    result.status ≠ .verified := by
  have run := hb.run h
  rw [run.status_online, run.rows_own (by simp)]
  intro hVerified
  exact ((rollupStatus_verified_iff ..).mp hVerified).1 rfl

section Sample

open Reference Python

def wholeTraceSigned : Nat × Nat :=
  (0x3bd8f636816dfe42b360aedb4ee4f599b116cfce31618feed88ee9c5127d0fd8,
    0xf4f9acac320071a9a2d35f69a4a9fdf7c9a79d81441994525fa4c018318190479296424433e494a066aed338f7af52d2bd3360eccf54205ff9c3b7d4950a6106)

def turnedTraceSigned : Nat × Nat :=
  (0x0e6a17a823ff646f73931d48ac30c64cef1ae03e72d233a93779c6d4d0769344,
    0xa780ef1bcd9c68340bea225b52dea97641159f7a2b62406139b609c6b3973d6f83405bd6ac6697a0849be785cc333ca491f0872f0bc79871bd8a7137d78ecb04)

def pairTraceSigned : Nat × Nat :=
  (0x84ab5a68739ab09dcc644b8e1c49b41f855fff59c6787529369324798f913dc6,
    0x885044adcc9db3fb4fe0104773dd625339559a8a52f40d08493f470391ec0d65d56edf433adeff9522ceefd8db3f5b60a3b7de119a7eac742231446c14f7c207)

def loneTraceSigned : Nat × Nat :=
  (0x21400dd06c681178d6c84df6d9911bddf9bcbcddcb4a506a040511f0daac379a,
    0x8cac0b077f0d5c1808af0f2df801766272af60128ff05a63dfa3050965df0c19f990e58f3385d6383944273776b9d869faf39c9ae80ccf9c991458adf33d6304)

def emptyTraceSigned : Nat × Nat :=
  (0x2b5576a9b81fd18c2b9c276e832c2f10db4ddde42c79ec984decd7a7f1098926,
    0x169364beeab644877ac49591b537cdc881b9cf478dce6c748463ac64debbc6b79a5e3e02a6a0d6129d6229dff4efbd88329997a17ac9251e8dac7b8d01543a0b)

/-- The producer of `honestBundle` put its windows into other traces too. -/
abbrev partsRuntime : Python.Runtime := python (signedWith [firstSigned, thirdSigned, pairSigned,
  loneSigned, wholeTraceSigned, turnedTraceSigned, pairTraceSigned, loneTraceSigned, emptyTraceSigned])

/-- Both parts in one trace, with the event of the second in front of that of the
first. -/
def wholeTrace : Json :=
  trace [pairWindow.checkpoint, loneWindow.checkpoint] [thirdEvent, firstEvent]
    0xc0277cac6856b09b474659d6a00d92dbf9acbd00972f6f8533f1ab21db7165fd wholeTraceSigned

/-- The same entries in another order, under a wrapper that was signed for that
order. -/
def turnedTrace : Json :=
  trace [loneWindow.checkpoint, pairWindow.checkpoint] [firstEvent, thirdEvent]
    0x2ad8c2a02191438525f9630781c0d7fdca7b2e931c36939691a81f08f3585d3f turnedTraceSigned

/-- The part with the first window, of whose two events it shows one. -/
def pairTrace : Json :=
  trace [pairWindow.checkpoint] [firstEvent]
    0x40c9bc8aef32669caab70a363ac85bef2807dd6066c5028637f7170261b4eb29 pairTraceSigned

/-- The part with the second window and its only event. -/
def loneTrace : Json :=
  trace [loneWindow.checkpoint] [thirdEvent]
    0xf89bb9cbb837a8947d12fa241bb3b137088775f1f1f3c0bb63d92c620dc00547 loneTraceSigned

/-- A part without entries, whose wrapper is signed like that of the others. -/
def emptyTrace : Json :=
  trace [] [] 0x5036a60bf8e829313c9ea96d45db733d758b581b5477f2494238d1623336af99 emptyTraceSigned

/-- What a gateway has stored for the checkpoint of a window. -/
def windowBytes (w : Window) : Bytes :=
  ((canonicalText (w.checkpoint.get "envelope")).getD []).map UInt16.toUInt8

/-- A gateway that holds the data items of both checkpoints. -/
def windowsOnChain (url : Str) : Option Bytes :=
  if url = utf16 "https://g/tx1" then some (windowBytes pairWindow)
  else if url = utf16 "https://g/tx2" then some (windowBytes loneWindow)
  else none

/-- A run against one gateway, which has both checkpoints. -/
def onWindows : Options := .online [utf16 "https://g"] windowsOnChain fun _ => none

/-- A trace is that of its entries where its wrapper holds. -/
theorem traceOf_sample {checkpoints events : List Json} {bodyHash : Nat} {signed : Nat × Nat}
    (hb : Wrapped (kernel partsRuntime) (trace checkpoints events bodyHash signed)) :
    TraceOf (kernel partsRuntime) (trace checkpoints events bodyHash signed) checkpoints events := by
  refine ⟨hb, ?_, ?_, ?_⟩ <;>
    simp [isTrace, trace, wrapper, Json.get, List.lookup_cons, Json.str?]

/-- A trace of objects under a wrapper that holds is run through. -/
theorem run_of_traceOf {b : Json} {checkpoints events : List Json}
    (hb : TraceOf (kernel partsRuntime) b checkpoints events)
    (hObjects : (checkpoints ++ events).all Json.isObj = true) (options : Options) :
    ∃ result, verifyEvidenceBundle (kernel partsRuntime) b options = .ok result := by
  have hBody := Json.isObj_of_get hb.checkpoints_eq (by simp)
  simp only [List.all_append, Bool.and_eq_true, List.all_eq_true] at hObjects
  obtain ⟨result, hResult, -⟩ := verifyAnchorTrace_of_readable hb.checkpoints_eq hb.events_eq
    ((kernel_checkEntry_eq_ok (R := partsRuntime) "" _).mpr hBody)
    (fun cp hcp => (kernel_checkEntry_eq_ok _ cp).mpr (hObjects.1 cp hcp))
    (fun ev hev => (kernel_checkEntry_eq_ok _ ev).mpr (hObjects.2 ev hev)) anchorTraceBodyType true
    (assertedStatus b) [] options
  refine ⟨result, ?_⟩
  rw [verifyEvidenceBundle_eq, verifyBundle_of_wrapped hb.wrapped, verifyBody_of_isTrace hb.isTrace,
    hResult]

/-- A run that ends with `verified` has found the wrapper to hold. -/
theorem verified_sample {b : Json} (h : returns (verifyEvidenceBundle (kernel partsRuntime) b onWindows)
    (fun result => result.status = .verified) = true) :
    Wrapped (kernel partsRuntime) b ∧
      ∃ result, verifyEvidenceBundle (kernel partsRuntime) b onWindows = .ok result ∧
        result.status = .verified := by
  obtain ⟨result, hRun, hStatus⟩ := exists_of_returns h
  have hStatus := of_decide_eq_true hStatus
  exact ⟨(wrapped_of_status hRun (by simp [hStatus])).1, result, hRun, hStatus⟩

/-- The whole trace is verified against the gateway. -/
theorem wholeTrace_run : Wrapped (kernel partsRuntime) wholeTrace ∧
    ∃ result, verifyEvidenceBundle (kernel partsRuntime) wholeTrace onWindows = .ok result ∧
      result.status = .verified := verified_sample (by decide +kernel)

/-- The first part is verified against the gateway. -/
theorem pairTrace_run : Wrapped (kernel partsRuntime) pairTrace ∧
    ∃ result, verifyEvidenceBundle (kernel partsRuntime) pairTrace onWindows = .ok result ∧
      result.status = .verified := verified_sample (by decide +kernel)

/-- The windows have different transaction ids. -/
theorem distinct_windows :
    ([pairWindow.checkpoint, loneWindow.checkpoint].map rowTxId).Nodup := by decide +kernel

theorem trace_order_irrelevant_sample : ∃ result,
    verifyEvidenceBundle (kernel partsRuntime) turnedTrace onWindows = .ok result ∧
      result.status = .verified := by
  obtain ⟨hb, result, hRun, hStatus⟩ := wholeTrace_run
  have hb' : Wrapped (kernel partsRuntime) turnedTrace := by decide +kernel
  obtain ⟨result', hRun'⟩ := run_of_traceOf (traceOf_sample hb') (by decide) onWindows
  obtain ⟨hSame, -⟩ := trace_order_irrelevant (traceOf_sample hb) (traceOf_sample hb')
    distinct_windows (List.Perm.swap _ _ _) (List.Perm.swap _ _ _) _ _ _ result result' hRun hRun'
  exact ⟨result', hRun', hSame ▸ hStatus⟩

theorem joined_trace_sample : ∃ result,
    verifyEvidenceBundle (kernel partsRuntime) wholeTrace onWindows = .ok result ∧
      result.status = .verified ∧ result.checkpoints.length = 2 ∧ result.events.length = 2 := by
  obtain ⟨hb, result, hRun, -⟩ := wholeTrace_run
  obtain ⟨hb₁, result₁, hRun₁, hStatus₁⟩ := pairTrace_run
  obtain ⟨hb₂, result₂, hRun₂, hStatus₂⟩ := verified_sample (b := loneTrace) (by decide +kernel)
  have hJoin : JoinOf [pairWindow.checkpoint, loneWindow.checkpoint] [thirdEvent, firstEvent]
      [pairWindow.checkpoint] [firstEvent] [loneWindow.checkpoint] [thirdEvent] := by
    refine ⟨List.Perm.refl _, List.Perm.swap _ _ _, distinct_windows, ?_, ?_⟩
    · intro ev hev
      rw [List.mem_singleton.mp hev]
      rfl
    · intro ev hev
      rw [List.mem_singleton.mp hev]
      rfl
  obtain ⟨hRows, hEvents, -, hVerified⟩ := joined_trace (traceOf_sample hb) (traceOf_sample hb₁)
    (traceOf_sample hb₂) hJoin (by simp) (by simp) _ _ _ result result₁ result₂ hRun hRun₁ hRun₂
  have run₁ := (traceOf_sample hb₁).run hRun₁
  have run₂ := (traceOf_sample hb₂).run hRun₂
  refine ⟨result, hRun, hVerified.mpr ⟨hStatus₁, hStatus₂⟩, ?_, ?_⟩
  · rw [hRows.length_eq, run₁.rows_own (by simp), run₂.rows_own (by simp)]
    rfl
  · rw [hEvents.length_eq, run₁.eventRows, run₂.eventRows]
    rfl

/-- Without a checkpoint in each part the whole may be verified though a part is not. -/
theorem empty_part_breaks_join : ∃ result result₂,
    TraceOf (kernel partsRuntime) emptyTrace [] [] ∧
    JoinOf [pairWindow.checkpoint] [firstEvent] [pairWindow.checkpoint] [firstEvent] [] [] ∧
    verifyEvidenceBundle (kernel partsRuntime) pairTrace onWindows = .ok result ∧
    verifyEvidenceBundle (kernel partsRuntime) emptyTrace onWindows = .ok result₂ ∧
    result.status = .verified ∧ result₂.status ≠ .verified := by
  obtain ⟨-, result, hRun, hStatus⟩ := pairTrace_run
  have hb₂ : TraceOf (kernel partsRuntime) emptyTrace [] [] :=
    traceOf_sample (by decide +kernel)
  obtain ⟨result₂, hRun₂⟩ := run_of_traceOf hb₂ rfl onWindows
  exact ⟨result, result₂, hb₂, joinOf_empty (by simp), hRun, hRun₂, hStatus,
    status_of_no_checkpoints hb₂ _ _ _ hRun₂⟩

end Sample
end ArioProof.CrossKernel

import PlatformFirmware.Proofs.ErrorRecord.Reporting
import PlatformFirmware.Proofs.HotPlug.Reporting
import PlatformFirmware.Proofs.Parameter.Reporting

namespace PlatformFirmware

open ManagementMode (Communicator callExecutor)
open Parameter (ServiceCall Transport)

/-- Whatever the secure world answers and leaves in shared memory, and whatever the doorbells show:
an error is one that firmware tells apart, and a success follows calls that all left zero in X0. The
one exception is the version, which is in X0 itself and is not negative. A parameter is read or
changed only by a call or a message that brings back the owner's word for success. -/
theorem failures_told_apart {σ ρ : Type} [SecureMonitor σ] [DataCache σ] [RegisterBus ρ] :
    (∀ (function : UInt32) (call : ServiceCall),
      let action : Firmware (Traced σ) _ := call.perform (Transport.secureCall function)
      Reports Traced.log (·.x0 = 0) Efi.Error.IsKnown action ∧
      ∀ s value after, action.run s = .ok value after →
        ∃ answer, after.log = s.log ++ [.call (call.request.call function) answer] ∧
          answer.x1.toUInt32 = 0xAABBCC00) ∧
    (∀ (function : UInt32) (writes : Traced σ → Bytes → Bytes) (bufferId : UInt8)
      (call : ServiceCall),
      let execute := ManagementMode.Executor.leaving writes (callExecutor function)
      let action := call.perform (Transport.communicate execute bufferId)
      (writes = (fun _ memory => memory) → execute = callExecutor function) ∧
      Reports Communicator.log (·.x0 = 0) Efi.Error.IsKnown action ∧
      ∀ communicator value after, action.run communicator = .ok value after →
        ∃ position buffer, communicator.buffers.findIdx? (·.id = bufferId) = some position ∧
          after.buffers[position]? = some buffer ∧
          Bytes.slice buffer.memory ManagementMode.Header.size 4 = Bytes.word32 0xAABBCC00) ∧
    (∀ (on : Bool) (detector : ErrorRecord.Detector),
      Reports (Traced.logBeside : ErrorRecord.Store × Traced (Machine σ ρ) → _) (·.x0 = 0)
        Efi.Error.IsKnown (ErrorRecord.StoreAction.enable on detector)) ∧
    (∀ client : SecurePartition.Client,
      Reports (Traced.log : Traced σ → _) (0 ≤ ·.status) Efi.Error.IsKnown client.version ∧
      ∀ service, Reports (Traced.log : Traced σ → _) (·.x0 = 0) Efi.Error.IsKnown
        (client.openHandle service)) ∧
    (∀ handle : SecurePartition.Handle,
      (∀ words, Reports (Traced.log : Traced σ → _) (·.x0 = 0) Efi.Error.IsKnown
        (handle.request words)) ∧
      Reports (Traced.log : Traced σ → _) (·.x0 = 0) Efi.Error.IsKnown handle.close) ∧
    ∀ service : HotPlug.Service,
      (∀ command, Reports (Traced.log : Traced σ → _) (·.x0 = 0) Efi.Error.IsKnown
        (service.send command)) ∧
      ∀ entries, Reports (Traced.log : Traced σ → _) (·.x0 = 0) Efi.Error.IsKnown
        (service.configurePortMap entries) := by
  refine ⟨fun function call => ⟨?_, ?_⟩, fun function writes bufferId call => ⟨?_, ?_, ?_⟩,
    ErrorRecord.reports_enable, fun client => ⟨client.reports_version, client.reports_openHandle⟩,
    fun handle => ⟨handle.reports_request, handle.reports_close⟩,
    fun service => ⟨service.reports_send, service.reports_configurePortMap⟩⟩
  · exact call.reports_perform (Transport.reports_secureCall function)
  · intro s value after h
    obtain ⟨response, hr, hs⟩ := ServiceCall.success_of_perform h
    exact Transport.word_of_secureCall hr hs
  · rintro rfl
    exact ManagementMode.Executor.leaving_id _
  · exact call.reports_perform (Transport.reports_communicate
      (ManagementMode.reports_leaving (ManagementMode.reports_callExecutor function)) bufferId)
  · intro communicator value after h
    obtain ⟨response, hr, hs⟩ := ServiceCall.success_of_perform h
    exact Transport.word_of_communicate hr hs

end PlatformFirmware

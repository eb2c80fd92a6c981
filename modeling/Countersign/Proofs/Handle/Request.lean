/-
# Requests as exchanges

A request that fits a command is one exchange, and it succeeds exactly if the device has carried out
its instruction. A request that does not fit a command fails and asks nothing.
-/

import Countersign.Handle
import Countersign.Proofs.Command.Wire
import Countersign.Proofs.Device.Run

namespace Countersign

/-- No other word has the number of success. -/
theorem StatusWord.code_eq_success_iff {word : StatusWord} :
    word.code = success.code ↔ word = success := by
  cases word <;> decide

/-- A reply is a result exactly if its word is the one for success. -/
theorem Reply.toResult_toResponse_eq_ok_iff {reply : Reply} {data : Bytes} :
    reply.toResponse.toResult = .ok data ↔ reply.status = .success ∧ reply.data = data := by
  have hsuccess : reply.toResponse.isSuccess = true ↔ reply.status = .success := by
    rw [Response.isSuccess, toResponse, beq_iff_eq, StatusWord.code_eq_success_iff]
  rw [Response.toResult]
  by_cases hstatus : reply.status = .success
  · rw [if_pos (hsuccess.2 hstatus), Except.ok.injEq, and_iff_right hstatus, toResponse]
  · rw [if_neg (mt hsuccess.1 hstatus)]
    refine ⟨fun herror => ?_, fun hresult => absurd hresult.1 hstatus⟩
    cases herror

/-- A device that answers a request with a result has carried out the instruction of the request,
in the flow of the handle. -/
theorem Device.exists_carries_of_toResult {S : SignatureScheme} {device : Device S} {draw : Draw}
    {request : Request} {p1 p2 : UInt8} {command answer : Bytes}
    (hcommand : request.toCommand p1 p2 = .ok command)
    (hresult : (device.handle draw command).2.toResponse.toResult = .ok answer) :
    ∃ data, encode request = .ok data ∧
      Carries device draw p2 data request.instruction (device.handle draw command).1 answer := by
  obtain ⟨data, hdata, hhandle⟩ := exists_handle_of_toCommand hcommand device draw
  have hperforms := performs_perform device draw request.instruction p2 data
  obtain ⟨hstatus, hanswer⟩ := Reply.toResult_toResponse_eq_ok_iff.1 hresult
  rw [← hhandle] at hperforms
  generalize device.handle draw command = outcome at hperforms hstatus hanswer
  refine ⟨data, hdata, ?_⟩
  cases hperforms with
  | carried hcarries =>
    cases hanswer
    exact hcarries
  | refused hrefused => exact absurd hstatus hrefused

namespace Handle

variable {handle : Handle} {request : Request} {cause : WireError} {command : Bytes}

/-- A request that fits a command is one exchange, and its result is read from the response. -/
theorem request_of_toCommand_ok
    (hcommand : request.toCommand handle.rate.code handle.flow.code = .ok command) :
    handle.request request = ExceptT.mk (.ask ⟨command, handle.timeout⟩
      fun answer => .done (answer >>= Response.toResult)) := by
  rw [Handle.request, hcommand]
  apply congrArg (fun rest => ExceptT.mk (Dialog.ask _ rest))
  funext answer
  cases answer <;> rfl

/-- A request that does not fit a command fails before anything is asked. -/
theorem request_of_toCommand_error
    (hcommand : request.toCommand handle.rate.code handle.flow.code = .error cause) :
    handle.request request = ExceptT.mk (.done (.error (.wire cause))) := by
  rw [Handle.request, hcommand]
  rfl

/-- The client that makes a request and asks no more than whether it went well. -/
def order (handle : Handle) (request : Request) : Client Unit := do
  let _ ← handle.request request

theorem run_order_of_toCommand_ok
    (hcommand : request.toCommand handle.rate.code handle.flow.code = .ok command) :
    (handle.order request).run = .ask ⟨command, handle.timeout⟩
      fun answer => .done ((answer >>= Response.toResult).map fun _ => ()) := by
  have hforget (result : Except Error Bytes) :
      (Dialog.done result : Dialog ExchangeAnswer _).bind (ExceptT.bindCont fun _ => pure ()) =
        (Dialog.done (result.map fun _ => ()) : Dialog ExchangeAnswer _) := by
    cases result <;> rfl
  rw [order, request_of_toCommand_ok hcommand]
  apply congrArg (Dialog.ask _)
  funext answer
  exact hforget _

theorem run_order_of_toCommand_error
    (hcommand : request.toCommand handle.rate.code handle.flow.code = .error cause) :
    (handle.order request).run = .done (.error (.wire cause)) := by
  rw [order, request_of_toCommand_error hcommand]
  rfl

/-- A request by itself fails at once, or it is one exchange of which the response is its result. -/
theorem run_order_cases (handle : Handle) (request : Request) :
    (∃ cause, (handle.order request).run = .done (.error cause)) ∨
      ∃ command, request.toCommand handle.rate.code handle.flow.code = .ok command ∧
        (handle.order request).run = .ask ⟨command, handle.timeout⟩
          fun answer => .done ((answer >>= Response.toResult).map fun _ => ()) := by
  cases hcommand : request.toCommand handle.rate.code handle.flow.code with
  | error cause => exact Or.inl ⟨_, run_order_of_toCommand_error hcommand⟩
  | ok command => exact Or.inr ⟨command, rfl, run_order_of_toCommand_ok hcommand⟩

end Handle

end Countersign

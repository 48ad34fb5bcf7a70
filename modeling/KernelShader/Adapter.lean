/-
`Adapter.lean` -- getting hold of a device: `acquire_adapter`, `acquire_device` and
`acquire_device_async`.

The host is asked for an adapter and the adapter for a device. Either request may fail with a message, and
there may be no adapter at all; each of the three leaves the host without a device and says why.
-/
import KernelShader.Device.Basic
import KernelShader.Log

set_option autoImplicit false

namespace KernelShader

/-- What the machine answers when it is asked for a device. -/
structure Machine where
  hasAdapter : Bool := true
  adapterError : Option String := none
  deviceError : Option String := none
  info : List (String × String) := []
  kernel : Kernel := Kernel.idle
  failures : Failures := Failures.none

namespace Machine

/-- A machine without any adapter. -/
def bare : Machine := { hasAdapter := false }

/-- What the adapter calls itself (`_describe`): the first of its device and description texts that is not
empty. -/
def description (m : Machine) : String :=
  let texts := ["device", "description"].filterMap fun key => m.info.lookup key
  (texts.find? (!·.isEmpty)).getD "unknown device"

end Machine

/-- Why there is no device. -/
inductive Refusal where
  | adapterFailed (message : String)
  | noAdapter
  | deviceFailed (message : String)
  deriving DecidableEq, Repr

namespace Refusal

/-- The wording of a refusal. -/
def reason : Refusal → String
  | .adapterFailed message => s!"Adapter request failed: {message}"
  | .noAdapter => "No compatible adapter found"
  | .deviceFailed message => s!"Device request failed: {message}"

/-- The fault a refusal is passed on as. -/
def fault (r : Refusal) : Fault := .unavailable r.reason

/-- The refusal passes on a failure of the machine. -/
def passesOn : Refusal → Bool
  | .noAdapter => false
  | _ => true

end Refusal

/-- How the request for a device went: the calls made, the events reported, the device or why none. -/
structure Acquisition where
  calls : List Call
  log : List Event
  outcome : Except Refusal Device

/-- Asks a machine for a device. A device begins with the calls that led to it on its trace. -/
def Machine.acquire (m : Machine) (waiting : Waiting) (preference : String) : Acquisition :=
  let first := [Call.requestAdapter waiting preference]
  match m.adapterError, m.hasAdapter with
  | some message, _ => ⟨first, [], .error (.adapterFailed message)⟩
  | none, false => ⟨first, [], .error .noAdapter⟩
  | none, true =>
    let calls := first ++ [Call.requestDevice waiting]
    match m.deviceError with
    | some message => ⟨calls, [], .error (.deviceFailed message)⟩
    | none =>
      ⟨calls, [.deviceFound m.description],
        .ok { kernel := m.kernel, failures := m.failures, trace := calls }⟩

end KernelShader

import Mathlib.Logic.Function.Basic

/-! # Status codes, run states and the error slot of the C boundary

The engine and the packet bridge each keep the code and text of their last error
behind their own mutex. Both use the same two setters, so the slot is one type.
-/

namespace FoloXray.Wrapper

/-- The status codes of `folo_apple.go`, in the order of their numeric values. -/
inductive Status where
  | ok
  | invalidArgument
  | invalidConfiguration
  | invalidState
  | startFailed
  | stopFailed
  | internalError
  | ioError
  | eof
  | resourceLimit
  | wouldBlock
  deriving DecidableEq, Repr

inductive RunState where
  | idle
  | running
  deriving DecidableEq, Repr

structure ErrorSlot where
  lastCode : Status
  lastError : String
  deriving DecidableEq, Repr

/-- `clearErrorLocked` and `clearPacketBridgeErrorLocked`; also the initial slot. -/
def clearErrorLocked : ErrorSlot := ⟨.ok, "ok"⟩

/-- `setErrorLocked` and `setPacketBridgeErrorLocked`: the new slot and the returned code. -/
def setErrorLocked (code : Status) (message : String) : ErrorSlot × Status :=
  (⟨code, message⟩, code)

end FoloXray.Wrapper

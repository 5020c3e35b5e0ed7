import FoloXray.PacketFlow.Transport
import FoloXray.Protocol.Address

/-! # Commands of a request

`common/protocol`: a request is for a stream, for packets or for a multiplexed connection.
-/

namespace FoloXray.Protocol

open Foundation
open PacketFlow (Destination)
open Profile (Address)

def requestCommandTCP : UInt8 := 0x01
def requestCommandUDP : UInt8 := 0x02
def requestCommandMux : UInt8 := 0x03

inductive TransferType where
  | stream
  | packet
  deriving DecidableEq, Repr

def transferType (command : UInt8) : TransferType :=
  if command = requestCommandUDP then .packet else .stream

def muxCool : Address := .domain (goString "v1.mux.cool")

/-- The command that the outbounds of VLESS and VMess choose for a target. -/
def commandFor (address : Address) (target : Destination) : UInt8 :=
  if address = muxCool then requestCommandMux
  else if target.network = .udp then requestCommandUDP
  else requestCommandTCP

section Command

variable {address : Address} {target : Destination}

theorem commandFor_eq_mux_iff : commandFor address target = requestCommandMux ↔ address = muxCool := by
  unfold commandFor
  by_cases hmux : address = muxCool
  · simp [hmux]
  · by_cases hudp : target.network = .udp <;> simp [hmux, hudp] <;> decide

theorem commandFor_eq_udp_iff :
    commandFor address target = requestCommandUDP ↔ address ≠ muxCool ∧ target.network = .udp := by
  unfold commandFor
  by_cases hmux : address = muxCool
  · simp [hmux]
    decide
  · by_cases hudp : target.network = .udp <;> simp [hmux, hudp]
    decide

theorem commandFor_of_ne (h : commandFor address target ≠ requestCommandMux) :
    commandFor address target = requestCommandTCP ∨ commandFor address target = requestCommandUDP := by
  unfold commandFor at h ⊢
  split at h
  · exact absurd rfl h
  · rename_i hmux
    rw [if_neg hmux]
    split
    · exact .inr rfl
    · exact .inl rfl

end Command

end FoloXray.Protocol

import Mathlib.Algebra.GroupWithZero.Nat
import Mathlib.Tactic.Common

/-!
# Result codes and wire bytes shared by all components

`EspErr` is the part of ESP-IDF's `esp_err_t` that the firmware tells apart; a code returned
by a driver and only passed on is `other`.  Bytes that travel between components are lists of
`UInt8`, and a C pointer to them that may be `NULL` is an `Option Bytes`.
-/

namespace FhssOtaRadio

/-- The `esp_err_t` codes the firmware compares against; `other` is any further driver code. -/
inductive EspErr where
  | ok
  | fail
  | noMem
  | invalidArg
  | invalidState
  | invalidSize
  | notFound
  | timeout
  | invalidCrc
  | other (code : ℕ)
  deriving DecidableEq, Repr

/-- A byte buffer together with its length. -/
abbrev Bytes := List UInt8

/-- `RF_TRANSPORT_MAX_PACKET_LENGTH`. -/
def rfTransportMaxPacketLength : ℕ := 60

/-- A SHA-256 digest, `uint8_t[32]`. -/
abbrev Sha256Digest := Vector UInt8 32

/-- The little-endian 32-bit word at byte offset `offset`. -/
def readU32Le (packet : Bytes) (offset : ℕ) : UInt32 :=
  UInt32.ofNat ((packet.getD offset 0).toNat + (packet.getD (offset + 1) 0).toNat * 2 ^ 8 +
    (packet.getD (offset + 2) 0).toNat * 2 ^ 16 + (packet.getD (offset + 3) 0).toNat * 2 ^ 24)

end FhssOtaRadio

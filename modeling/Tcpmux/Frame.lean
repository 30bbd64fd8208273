import Mathlib

/-!
# Frames, errors and tunables of package `toh`

The frame type, its option constants and its codec live in `frame.go`, which is not part of
the snapshot.  `Frame` follows the wire layout the spec gives (§3, §6): a 32-bit `idx`, a
64-bit `connIdx`, a 16-bit `options` field and the payload; the `next` linkage of a chain is
kept as list order, the order in which `marshal` emits the frames.

Errors are compared by their text, the way the code builds them (`fmt.Errorf`).

The snapshot mixes 32- and 64-bit connection indices (`readConn.idx uint32`, the
orchestrator's `map[uint32]*ClientConn`, `ClientConn.idx uint64`).  Where a 64-bit index meets
a uint32 slot we take its low 32 bits, as a `uint32(x)` conversion does (`low32`).
-/

namespace Toh

/-! ## Frames -/

/-- Modelled from the spec: the option constants are declared in the missing `frame.go`; the
spec says they are distinct bits of `options`. -/
def optSyncConnIdx : UInt16 := 1
def optSyncCtr : UInt16 := 2
def optHello : UInt16 := 4
def optPing : UInt16 := 8
def optClosed : UInt16 := 16

/-- Modelled from the spec: a frame as `parseframe` returns it (the type is declared in the
missing `frame.go`). -/
structure Frame where
  idx : UInt32
  connIdx : UInt64
  options : UInt16
  data : List UInt8
  deriving DecidableEq, Repr

/-- Lets `simp` settle `IsEmpty Frame` side goals at once. -/
instance : Nonempty Frame := ⟨⟨0, 0, 0, []⟩⟩

/-- `uint32(x)`: the low 32 bits of a connection index. -/
def low32 (x : UInt64) : UInt32 := x.toUInt32

@[simp] theorem low32_toNat (x : UInt64) : (low32 x).toNat = x.toNat % 2 ^ 32 := by
  simp only [low32, UInt64.toUInt32, UInt32.toNat, Nat.toUInt32]
  rfl

theorem UInt32.toNat_add_one (a : UInt32) : (a + 1).toNat = (a.toNat + 1) % 2 ^ 32 := by
  simp [UInt32.toNat, UInt32.add_def, BitVec.toNat_add]

/-! ## Errors -/

/-- An `error` value, identified by its message. -/
structure Err where
  msg : String
  deriving DecidableEq, Repr

/-- Lets `simp` settle `IsEmpty Err` side goals at once. -/
instance : Nonempty Err := ⟨⟨""⟩⟩

/-- `ErrClosedConn`. -/
def errClosedConn : Err := ⟨"use of closed connection"⟩
/-- `&timeoutError{}`, whose `Error()` is "operation timed out". -/
def errTimeout : Err := ⟨"operation timed out"⟩
def errInvalidFrames : Err := ⟨"invalid frames"⟩
def errUnsyncedCounter : Err := ⟨"un-synced counter"⟩
def errUnmatchedStreamIndex : Err := ⟨"fatal: unmatched stream index"⟩
def errMissingCertainFrame : Err := ⟨"fatal: missing certain frame"⟩
/-- What the orchestrator feeds a connection whose peer sent `optClosed`; the text is the
code's. -/
def errPeerClosed : Err := ⟨"use if closed connection"⟩
def errAcceptOnClosedListener : Err := ⟨"accept on closed listener"⟩

/-! ## Tunables -/

/-- The package variables the modelled code reads; a program may override them at startup. -/
structure Tunables where
  maxWriteBufferSize : Nat
  maxReadBufferSize : Nat

/-- `MaxWriteBufferSize = MaxReadBufferSize = 1024 * 1024 * 1`. -/
def Tunables.default : Tunables := ⟨1024 * 1024 * 1, 1024 * 1024 * 1⟩

/-- The AES-128 key `Dial` and `Listen` derive from the network name:
`[]byte(network + "0123456789abcdef")[:16]`. -/
def cipherKey (network : String) : List UInt8 :=
  (network ++ "0123456789abcdef").toUTF8.data.toList.take 16

end Toh

import Tcpmux.ReadConn.FutureFrames

/-!
# The read side: `readConn`

`readConn` (read_conn.go) puts the payload frames of one virtual connection back in `idx`
order.  `readLoopRearrange` is a goroutine over the channel `frames`; one pass of its loop
body is `rearrange`, and its inner loop (`drain`) moves the frames `counter + 1`,
`counter + 2`, … from `futureframes` to `buf`.  `readLoop` runs the goroutine over the frames
the channel delivers, and stops where the Go loop returns.  `Read` is `read`, one attempt of
the Go function: a `blocked` attempt is the call parked on the wait object, retried after
the next change of state.

The goroutine, the channel and the wait object are not fields: a run takes the channel's
frames as a list, and `read` takes whether the wait deadline has fired.  `counter` is a
`uint64` that is only ever assigned a frame's 32-bit `idx`, so `counter + 1` cannot wrap and
the model keeps it in `Nat`.
-/

namespace Toh

/-- `readConn`, without its channel, wait object and tag. -/
structure ReadConn where
  counter : Nat
  buf : List UInt8
  futureframes : FutureFrames
  futureSize : Int
  err : Option Err
  closed : Bool
  idx : UInt32
  blk : List UInt8

namespace ReadConn

/-! ## Algorithm -/

/-- `newReadConn(idx, blk, tag)`, before its goroutine starts. -/
def newReadConn (idx : UInt32) (blk : List UInt8) : ReadConn :=
  { counter := 0, buf := [], futureframes := .empty, futureSize := 0, err := none,
    closed := false, idx := idx, blk := blk }

/-- `close()`: idempotent; closes `frames` and fires the wait deadline. -/
def close (c : ReadConn) : ReadConn := if c.closed then c else { c with closed := true }

/-- `feedError(err)`: store the error, then `close()`. -/
def feedError (c : ReadConn) (e : Err) : ReadConn := { c with err := some e }.close

/-- One iteration of the drain loop: `futureframes[counter + 1]` is `f`. -/
def deliver (c : ReadConn) (f : Frame) : ReadConn :=
  { c with buf := c.buf ++ f.data, counter := f.idx.toNat,
           futureframes := c.futureframes.delete f.idx.toNat,
           futureSize := c.futureSize - f.data.length }

/-- The inner `for` of `readLoopRearrange`: deliver `futureframes[counter + 1]` while it is
present. -/
def drain (c : ReadConn) : ReadConn :=
  match _h : c.futureframes.lookup (c.counter + 1) with
  | some f => drain (c.deliver f)
  | none => c
termination_by c.futureframes.size
decreasing_by
  show (c.futureframes.delete f.idx.toNat).size < _
  rw [FutureFrames.idx_of_lookup _h]
  exact FutureFrames.size_delete_lt _h

/-- Store an early frame: `futureframes[f.idx] = f; futureSize += len(f.data)`. -/
def insert (c : ReadConn) (f : Frame) : ReadConn :=
  { c with futureframes := c.futureframes.store f, futureSize := c.futureSize + f.data.length }

/-- Where one pass of the loop body leaves the goroutine. -/
inductive Pass where
  | next (c : ReadConn)
  | exit (c : ReadConn)

/-- The read side after a pass. -/
def Pass.state : Pass → ReadConn
  | .next c => c
  | .exit c => c

/-- One pass of `readLoopRearrange`'s body on a frame `f` taken from `frames`. -/
def rearrange (t : Tunables) (c : ReadConn) (f : Frame) : Pass :=
  if low32 f.connIdx ≠ c.idx then .exit (c.feedError errUnmatchedStreamIndex)
  else if f.idx.toNat ≤ c.counter then .exit c
  else
    let c := (c.insert f).drain
    if c.futureSize > t.maxWriteBufferSize then .exit (c.feedError errMissingCertainFrame)
    else .next c

/-- `readLoopRearrange` over the frames `frames` delivers, in order: the state it leaves and
the frames it never takes, because it returned first. -/
def readLoop (t : Tunables) : ReadConn → List Frame → ReadConn × List Frame
  | c, [] => (c, [])
  | c, f :: fs =>
    match rearrange t c f with
    | .next c' => readLoop t c' fs
    | .exit c' => (c', fs)

/-- What one attempt of `Read` returns. -/
inductive ReadResult where
  | data (b : List UInt8)
  | err (e : Err)
  | blocked
  deriving DecidableEq, Repr

/-- The bytes a `Read` attempt hands to the application. -/
def ReadResult.bytes : ReadResult → List UInt8
  | .data b => b
  | _ => []

/-- One attempt of `Read(p)` with `len(p) = n`; `timedOut` is `c.ready.IsTimedout()`. -/
def read (c : ReadConn) (n : Nat) (timedOut : Bool) : ReadResult × ReadConn :=
  if c.closed then (.err errClosedConn, c)
  else match c.err with
    | some e => (.err e, c)
    | none =>
      if timedOut then (.err errTimeout, c)
      else if c.buf.length > 0 then (.data (c.buf.take n), { c with buf := c.buf.drop n })
      else (.blocked, c)

/-! ## Equations -/

theorem drain_of_lookup_some {c : ReadConn} {f : Frame}
    (h : c.futureframes.lookup (c.counter + 1) = some f) : c.drain = (c.deliver f).drain := by
  rw [drain]; split <;> simp_all

theorem drain_of_lookup_none {c : ReadConn} (h : c.futureframes.lookup (c.counter + 1) = none) :
    c.drain = c := by
  rw [drain]; split <;> simp_all

@[simp] theorem close_eq (c : ReadConn) : c.close = { c with closed := true } := by
  unfold close; split <;> (try cases c) <;> simp_all

@[simp] theorem feedError_err (c : ReadConn) (e : Err) : (c.feedError e).err = some e := by
  simp [feedError]

@[simp] theorem feedError_closed (c : ReadConn) (e : Err) : (c.feedError e).closed = true := by
  simp [feedError]

@[simp] theorem feedError_blk (c : ReadConn) (e : Err) : (c.feedError e).blk = c.blk := by
  simp [feedError]

theorem read_closed {c : ReadConn} (h : c.closed = true) (n : Nat) (timedOut : Bool) :
    c.read n timedOut = (.err errClosedConn, c) := by
  simp [read, h]

/-- `Read` only hands out a prefix of `buf` and keeps the rest. -/
theorem read_buf (c : ReadConn) (n : Nat) (timedOut : Bool) :
    (c.read n timedOut).1.bytes ++ (c.read n timedOut).2.buf = c.buf := by
  unfold read
  by_cases hc : c.closed
  · simp [hc, ReadResult.bytes]
  · cases c.err with
    | some e => simp [hc, ReadResult.bytes]
    | none =>
      by_cases ht : timedOut
      · simp [hc, ht, ReadResult.bytes]
      · by_cases hb : c.buf.length > 0 <;> simp [hc, ht, hb, ReadResult.bytes]

/-- `Read` changes nothing but `buf`. -/
theorem read_eq (c : ReadConn) (n : Nat) (timedOut : Bool) :
    (c.read n timedOut).2 = { c with buf := (c.read n timedOut).2.buf } := by
  obtain ⟨counter, buf, ff, fs, err, closed, idx, blk⟩ := c
  unfold read
  by_cases hc : closed
  · simp [hc]
  · cases err with
    | some e => simp [hc]
    | none =>
      by_cases ht : timedOut
      · simp [hc, ht]
      · by_cases hb : buf.length > 0 <;> simp [hc, ht, hb]

/-! ## Runs -/

/-- What can happen to a read side: its loop takes a frame from `frames`, the application
calls `Read`, or another component calls `feedError` or `close`. -/
inductive Event where
  | take (f : Frame)
  | read (n : Nat) (timedOut : Bool)
  | feedError (e : Err)
  | close

/-- A read side and whether its `readLoopRearrange` goroutine still runs. -/
structure Sys where
  conn : ReadConn
  running : Bool

/-- A fresh read side with its goroutine started. -/
def Sys.init (idx : UInt32) (blk : List UInt8) : Sys := ⟨newReadConn idx blk, true⟩

/-- One event, and the bytes it hands to the application. -/
def Sys.step (t : Tunables) (s : Sys) : Event → Sys × List UInt8
  | .take f =>
    if s.running then
      match rearrange t s.conn f with
      | .next c => (⟨c, true⟩, [])
      | .exit c => (⟨c, false⟩, [])
    else (s, [])
  | .read n timedOut =>
    let r := s.conn.read n timedOut
    (⟨r.2, s.running⟩, r.1.bytes)
  | .feedError e => (⟨s.conn.feedError e, s.running⟩, [])
  | .close => (⟨s.conn.close, s.running⟩, [])

/-- A run of events, and the bytes all its `Read`s hand out, in order. -/
def Sys.run (t : Tunables) : Sys → List Event → Sys × List UInt8
  | s, [] => (s, [])
  | s, e :: es =>
    let r := s.step t e
    let r' := r.1.run t es
    (r'.1, r.2 ++ r'.2)

end ReadConn

end Toh

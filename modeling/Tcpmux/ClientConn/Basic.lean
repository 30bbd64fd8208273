import Tcpmux.ReadConn.Reassembly

/-!
# The client side of a virtual connection: `ClientConn`

`ClientConn` (client_conn.go, the second file of `unnamed/part_000`) owns a write side,
guarded by a mutex, and a read side.  Its goroutines are the application's `Write`s and
`Read`s, the scheduled tick, the `sendWriteBuf` calls the orchestrator or `orchSendWriteBuf`
spawn, and the read side's `readLoopRearrange`.  `Sys.step` is one atomic step of one of
them:

* `write p` is the checks at the top of `Write` and `append p` the rest of a call past
  them: the locked append and the flush decision.  A check and its append can be separated
  by any other step;
* a `sendWriteBuf` is four kinds of step of the goroutine holding the write mutex, whose
  phase is `Sys.lock` (`Holder`): `lock` takes the mutex and loads `pendingSize`, `double`
  stores twice it, `check` caps it at 1024, tests `c.read.err` and builds the chain with a
  `rand.Uint32()` draw, and each `post` is one POST of the retry loop, whose outcome
  (`PostResult`, the deadline included) the environment decides.  Every other goroutine's
  steps can fall in between: a `feedError` during the retry loop, which the `check` made
  before it no longer sees, or the tick's unlocked `pendingSize = 1` between the load and
  the store of the doubling, which the store overwrites;
* `tick` and `schedSending` are the two statements of the scheduled tick's callback;
* `feedError e` is `readConn.feedError` from any caller (the orchestrator on the peer's
  `optClosed`, `feedframes`, a drainer);
* `take` and `read` are the read side's own steps (`ReadConn.Sys.step`).

What each step returns to its caller, the POSTs it makes, the bytes it appends and the
payload frame a successful POST delivers are its `Out`.  The response channel `respCh` and
its drainers are modelled in `Tcpmux.RespLoop.Basic`, and their teardown in
`Tcpmux.Teardown`.
-/

namespace Toh

/-- `ClientConn.write`, without the scheduler key and survey counters. -/
structure WriteSide where
  counter : UInt32
  buf : List UInt8
  pendingSize : Nat
  /-- `respChOnce` has run: `respCh` is closed and `optClosed` was sent. -/
  respChClosed : Bool

/-- `ClientConn`. -/
structure ClientConn where
  idx : UInt64
  endpoint : String
  write : WriteSide
  read : ReadConn

/-- Lets `simp` settle `IsEmpty ClientConn` side goals at once. -/
instance : Nonempty ClientConn := ⟨⟨0, "", ⟨0, [], 1, false⟩, .newReadConn 0 []⟩⟩

/-- A POST made by `ClientConn.send`: where to, under which key, and the chain it marshals. -/
structure Post where
  endpoint : String
  blk : List UInt8
  frames : List Frame
  deriving DecidableEq

/-- Lets `simp` settle `IsEmpty Post` side goals at once. -/
instance : Nonempty Post := ⟨⟨"", [], []⟩⟩

/-- What one POST of the retry loop of `sendWriteBuf` comes to: success, a failure before the
deadline (the loop POSTs again), or a failure past it. -/
inductive PostResult where
  | ok
  | retry (e : Err)
  | expired (e : Err)

namespace ClientConn

/-! ## Algorithm -/

/-- `newClientConn(endpoint, blk)` with the random index `idx`, once its hello succeeded. -/
def newClientConn (endpoint : String) (blk : List UInt8) (idx : UInt64) : ClientConn :=
  { idx := idx, endpoint := endpoint, write := ⟨0, [], 1, false⟩,
    read := .newReadConn (low32 idx) blk }

/-- The hello `newClientConn` sends, `r` being its `rand.Uint32()`. -/
def helloPost (c : ClientConn) (r : UInt32) : Post :=
  ⟨c.endpoint, c.read.blk, [⟨r, c.idx, optSyncConnIdx, []⟩, ⟨0, c.idx, optHello, []⟩]⟩

/-- `Close()`: close the read side; the first call also closes `respCh` and sends
`optClosed`. -/
def close (c : ClientConn) : ClientConn × List Post :=
  let c' := { c with read := c.read.close }
  if c.write.respChClosed then (c', [])
  else ({ c' with write := { c'.write with respChClosed := true } },
    [{ endpoint := c.endpoint, blk := c.read.blk, frames := [⟨0, c.idx, optClosed, []⟩] }])

/-- `schedSending()`: close the connection if the read side failed or closed; otherwise hand
it to the orchestrator, whose `sendWriteBuf` is a step of its own. -/
def schedSending (c : ClientConn) : ClientConn × List Post :=
  if c.read.err.isSome || c.read.closed then c.close else (c, [])

/-- What the checks at the top of `Write` decide. -/
inductive WriteCheck where
  | fail (e : Err)
  | full
  | pass

/-- The checks of `Write`: the read side's error, then `closed`, then a full buffer (the
caller sleeps a second and checks again). -/
def writeCheck (t : Tunables) (c : ClientConn) : WriteCheck :=
  match c.read.err with
  | some e => .fail e
  | none =>
    if c.read.closed then .fail errClosedConn
    else if c.write.buf.length > t.maxWriteBufferSize then .full
    else .pass

/-- The rest of `Write(p)` after its checks: append under the lock, then flush through
`schedSending` once `buf` reaches `pendingSize`. -/
def writeAppend (c : ClientConn) (p : List UInt8) : ClientConn × List Post :=
  let c := { c with write := { c.write with buf := c.write.buf ++ p } }
  if c.write.buf.length < c.write.pendingSize then (c, []) else c.schedSending

/-- The payload frame `sendWriteBuf` builds: `{idx: counter + 1, data: buf}`. -/
def payloadFrame (c : ClientConn) : Frame := ⟨c.write.counter + 1, c.idx, 0, c.write.buf⟩

/-- The chain `sendWriteBuf` POSTs, `r` being its `rand.Uint32()`. -/
def writePost (c : ClientConn) (r : UInt32) : Post :=
  ⟨c.endpoint, c.read.blk, [⟨r, c.idx, optSyncConnIdx, []⟩, c.payloadFrame]⟩

/-- `c.write.survey.pendingSize = n`. -/
def setPendingSize (c : ClientConn) (n : Nat) : ClientConn :=
  { c with write := { c.write with pendingSize := n } }

/-- After a successful POST: `c.write.buf = c.write.buf[:0]` and `c.write.counter++`. -/
def postOk (c : ClientConn) : ClientConn :=
  { c with write := { c.write with buf := [], counter := c.write.counter + 1 } }

/-! ## Equations -/

@[simp] theorem close_fst (c : ClientConn) :
    c.close.1 =
      { c with read := c.read.close, write := { c.write with respChClosed := true } } := by
  unfold close
  split
  · obtain ⟨idx, endpoint, ⟨counter, buf, ps, rc⟩, read⟩ := c
    simp_all
  · rfl

theorem schedSending_fst (c : ClientConn) :
    c.schedSending.1 = if c.read.err.isSome || c.read.closed then c.close.1 else c := by
  unfold schedSending; split <;> rfl

/-- `schedSending` touches nothing of the write side but the `respCh` flag. -/
@[simp] theorem schedSending_write_buf (c : ClientConn) :
    c.schedSending.1.write.buf = c.write.buf := by
  rw [schedSending_fst]; split <;> simp

@[simp] theorem schedSending_write_counter (c : ClientConn) :
    c.schedSending.1.write.counter = c.write.counter := by
  rw [schedSending_fst]; split <;> simp

@[simp] theorem schedSending_pendingSize (c : ClientConn) :
    c.schedSending.1.write.pendingSize = c.write.pendingSize := by
  rw [schedSending_fst]; split <;> simp

/-- `schedSending` closes the read side when it failed or closed, and leaves it alone otherwise. -/
@[simp] theorem schedSending_read (c : ClientConn) :
    c.schedSending.1.read =
      if c.read.err.isSome || c.read.closed then c.read.close else c.read := by
  rw [schedSending_fst]; split <;> simp

@[simp] theorem schedSending_idx (c : ClientConn) : c.schedSending.1.idx = c.idx := by
  rw [schedSending_fst]; split <;> simp

@[simp] theorem schedSending_endpoint (c : ClientConn) :
    c.schedSending.1.endpoint = c.endpoint := by
  rw [schedSending_fst]; split <;> simp

@[simp] theorem schedSending_blk (c : ClientConn) : c.schedSending.1.read.blk = c.read.blk := by
  rw [schedSending_read]; split <;> simp

/-- `writeAppend` appends to `buf`, and the flush it may make changes nothing else of the
write side but the `respCh` flag. -/
@[simp] theorem writeAppend_write_buf (c : ClientConn) (p : List UInt8) :
    (c.writeAppend p).1.write.buf = c.write.buf ++ p := by
  simp only [writeAppend]; split <;> simp

@[simp] theorem writeAppend_write_counter (c : ClientConn) (p : List UInt8) :
    (c.writeAppend p).1.write.counter = c.write.counter := by
  simp only [writeAppend]; split <;> simp

@[simp] theorem writeAppend_pendingSize (c : ClientConn) (p : List UInt8) :
    (c.writeAppend p).1.write.pendingSize = c.write.pendingSize := by
  simp only [writeAppend]; split <;> simp

@[simp] theorem writeAppend_idx (c : ClientConn) (p : List UInt8) :
    (c.writeAppend p).1.idx = c.idx := by
  simp only [writeAppend]; split <;> simp

@[simp] theorem writeAppend_endpoint (c : ClientConn) (p : List UInt8) :
    (c.writeAppend p).1.endpoint = c.endpoint := by
  simp only [writeAppend]; split <;> simp

@[simp] theorem writeAppend_blk (c : ClientConn) (p : List UInt8) :
    (c.writeAppend p).1.read.blk = c.read.blk := by
  simp only [writeAppend]; split
  exacts [rfl, schedSending_blk _]

/-- The flush of `writeAppend` closes the read side or leaves it alone. -/
theorem writeAppend_read (c : ClientConn) (p : List UInt8) :
    (c.writeAppend p).1.read = c.read ∨ (c.writeAppend p).1.read = c.read.close := by
  simp only [writeAppend]
  split
  · exact .inl rfl
  · rw [schedSending_read]; split
    · exact .inr rfl
    · exact .inl rfl

/-- The chain of `sendWriteBuf` reads only the identity of the connection, `counter` and
`buf`. -/
@[simp] theorem writePost_setPendingSize (c : ClientConn) (n : Nat) (r : UInt32) :
    (c.setPendingSize n).writePost r = c.writePost r := rfl

theorem writePost_congr {c c' : ClientConn} (hi : c'.idx = c.idx)
    (he : c'.endpoint = c.endpoint) (hb : c'.read.blk = c.read.blk)
    (hc : c'.write.counter = c.write.counter) (hbuf : c'.write.buf = c.write.buf) (r : UInt32) :
    c'.writePost r = c.writePost r := by
  simp only [writePost, payloadFrame, hi, he, hb, hc, hbuf]

end ClientConn

/-! ## Steps -/

/-- Where the `sendWriteBuf` call holding the write mutex is. -/
inductive Holder where
  /-- Past `c.write.Lock()` and the load of `pendingSize *= 2`, which read `ps`. -/
  | doubling (ps : Nat)
  /-- Past the store of `ps * 2`, at `> 1024` with the doubled value in hand. -/
  | checking (doubled : Nat)
  /-- In the retry loop, POSTing the chain `post`. -/
  | posting (post : Post)
  deriving DecidableEq

/-- One atomic step of a goroutine acting on a client connection. -/
inductive Event where
  /-- The checks at the top of `Write(p)`. -/
  | write (p : List UInt8)
  /-- The rest of a `Write(p)` past its checks. -/
  | append (p : List UInt8)
  /-- `c.write.Lock()` at the top of a `sendWriteBuf`, and the load of `pendingSize`. -/
  | lock
  /-- The store of `pendingSize *= 2`. -/
  | double
  /-- The cap at 1024, `if c.read.err != nil { return }`, and the chain with `rand.Uint32()`
  drawing `r`. -/
  | check (r : UInt32)
  /-- One POST of the retry loop. -/
  | post (res : PostResult)
  /-- `c.write.survey.pendingSize = 1` in the tick callback. -/
  | tick
  /-- `schedSending()`, from the tick callback. -/
  | schedSending
  | close
  | feedError (e : Err)
  | take (f : Frame)
  | read (n : Nat) (timedOut : Bool)

/-- What a step hands back to the goroutine that made it. -/
inductive Ret where
  | done
  | wrote (n : Nat)
  | read (r : ReadConn.ReadResult)
  | error (e : Err)
  | blocked
  deriving DecidableEq, Repr

/-- What a step returns, the POSTs it makes, the bytes a `Write` appends, and the payload
frame a successful POST delivers. -/
structure Out where
  ret : Ret := .done
  posts : List Post := []
  appended : List UInt8 := []
  sent : Option Frame := none

/-- A client connection, the `Write`s past their checks, whether `readLoopRearrange` runs,
and the `sendWriteBuf` call holding the write mutex. -/
structure Sys where
  conn : ClientConn
  writers : List (List UInt8)
  running : Bool
  lock : Option Holder

/-- A connection `newClientConn` returned. -/
def Sys.init (endpoint : String) (blk : List UInt8) (idx : UInt64) : Sys :=
  ⟨.newClientConn endpoint blk idx, [], true, none⟩

/-- The read side as the read-side model sees it. -/
def Sys.readSys (s : Sys) : ReadConn.Sys := ⟨s.conn.read, s.running⟩

/-- The chain the `sendWriteBuf` holding the mutex POSTs, once it is in its retry loop. -/
def Sys.posting (s : Sys) : Option Post :=
  match s.lock with
  | some (.posting p) => some p
  | _ => none

/-- One step.  A goroutine that is not at the statement, or waits for the mutex, makes no
change. -/
def Sys.step (t : Tunables) (s : Sys) : Event → Sys × Out
  | .write p =>
    match s.conn.writeCheck t with
    | .fail e => (s, { ret := .error e })
    | .full => (s, { ret := .blocked })
    | .pass => ({ s with writers := s.writers ++ [p] }, {})
  | .append p =>
    if p ∈ s.writers then
      if s.lock.isNone then
        let r := s.conn.writeAppend p
        ({ s with conn := r.1, writers := s.writers.erase p },
          { ret := .wrote p.length, posts := r.2, appended := p })
      else (s, { ret := .blocked })
    else (s, {})
  | .lock =>
    if s.lock.isNone then ({ s with lock := some (.doubling s.conn.write.pendingSize) }, {})
    else (s, { ret := .blocked })
  | .double =>
    match s.lock with
    | some (.doubling ps) =>
      ({ s with conn := s.conn.setPendingSize (ps * 2), lock := some (.checking (ps * 2)) }, {})
    | _ => (s, {})
  | .check r =>
    match s.lock with
    | some (.checking doubled) =>
      let c := if doubled > 1024 then s.conn.setPendingSize 1024 else s.conn
      match s.conn.read.err with
      | some _ => ({ s with conn := c, lock := none }, {})
      | none => ({ s with conn := c, lock := some (.posting (c.writePost r)) }, {})
    | _ => (s, {})
  | .post res =>
    match s.lock with
    | some (.posting p) =>
      match res with
      | .ok =>
        ({ s with conn := s.conn.postOk, lock := none }, { posts := [p], sent := p.frames.getLast? })
      | .retry _ => (s, { posts := [p] })
      | .expired e =>
        ({ s with conn := { s.conn with read := s.conn.read.feedError e }, lock := none },
          { posts := [p] })
    | _ => (s, {})
  | .tick => ({ s with conn := s.conn.setPendingSize 1 }, {})
  | .schedSending =>
    let x := s.conn.schedSending
    ({ s with conn := x.1 }, { posts := x.2 })
  | .close =>
    let x := s.conn.close
    ({ s with conn := x.1 }, { posts := x.2 })
  | .feedError e => ({ s with conn := { s.conn with read := s.conn.read.feedError e } }, {})
  | .take f =>
    let r := s.readSys.step t (.take f)
    ({ s with conn := { s.conn with read := r.1.conn }, running := r.1.running }, {})
  | .read n timedOut =>
    let x := s.conn.read.read n timedOut
    ({ s with conn := { s.conn with read := x.2 } }, { ret := .read x.1 })

/-- The state after a run of steps. -/
def Sys.run (t : Tunables) : Sys → List Event → Sys
  | s, [] => s
  | s, e :: es => (s.step t e).1.run t es

/-- The POSTs a run of steps makes, in order. -/
def Sys.posts (t : Tunables) : Sys → List Event → List Post
  | _, [] => []
  | s, e :: es => (s.step t e).2.posts ++ (s.step t e).1.posts t es

theorem Sys.run_append (t : Tunables) (s : Sys) (es : List Event) (e : Event) :
    s.run t (es ++ [e]) = ((s.run t es).step t e).1 := by
  induction es generalizing s with
  | nil => rfl
  | cons e' es ih => exact ih _

/-- The states of a connection from `newClientConn`, with the bytes its `Write`s appended, in
the order they took the lock, and the payload frames its successful POSTs delivered. -/
inductive Reach (t : Tunables) : Sys → List UInt8 → List Frame → Prop where
  | init (endpoint : String) (blk : List UInt8) (idx : UInt64) :
      Reach t (Sys.init endpoint blk idx) [] []
  | step {s : Sys} {A : List UInt8} {F : List Frame} (e : Event) :
      Reach t s A F →
      Reach t (s.step t e).1 (A ++ (s.step t e).2.appended) (F ++ (s.step t e).2.sent.toList)

/-! ## What one step does -/

/-- The event is a POST that succeeds. -/
def Event.succeeds : Event → Bool
  | .post .ok => true
  | _ => false

/-- `Write(p)` past its checks: with `p` among the writers and the mutex free it appends to
`buf` and may flush; otherwise it waits for the mutex, or is not there, and nothing happens. -/
theorem Sys.step_append (t : Tunables) (s : Sys) (p : List UInt8) :
    (p ∈ s.writers ∧ s.lock = none ∧ s.step t (.append p) =
      ({ s with conn := (s.conn.writeAppend p).1, writers := s.writers.erase p },
        { ret := .wrote p.length, posts := (s.conn.writeAppend p).2, appended := p })) ∨
    ∃ r, s.step t (.append p) = (s, { ret := r }) := by
  simp only [Sys.step]
  split
  · split
    · exact .inl ⟨‹_›, Option.isNone_iff_eq_none.1 ‹_›, rfl⟩
    · exact .inr ⟨_, rfl⟩
  · exact .inr ⟨_, rfl⟩

/-- No step changes a connection's index, endpoint or key. -/
theorem Sys.step_ids (t : Tunables) (s : Sys) (e : Event) :
    (s.step t e).1.conn.idx = s.conn.idx ∧ (s.step t e).1.conn.endpoint = s.conn.endpoint ∧
      (s.step t e).1.conn.read.blk = s.conn.read.blk := by
  cases e with
  | write p => simp only [Sys.step]; split <;> simp
  | append p => rcases Sys.step_append t s p with ⟨-, -, h⟩ | ⟨r, h⟩ <;> simp [h]
  | lock => simp only [Sys.step]; split <;> simp
  | double | check _ | post _ =>
    rcases hl : s.lock with _ | ⟨_ | _ | _⟩ <;> simp only [Sys.step, hl] <;>
      (try split) <;> (try split) <;> simp [ClientConn.setPendingSize, ClientConn.postOk]
  | tick => simp [Sys.step, ClientConn.setPendingSize]
  | schedSending =>
    simp only [Sys.step, ClientConn.schedSending_idx, ClientConn.schedSending_endpoint,
      ClientConn.schedSending_blk, and_self]
  | close => simp [Sys.step]
  | feedError e => simp [Sys.step]
  | take f =>
    simp only [Sys.step, ReadConn.Sys.step, Sys.readSys]
    split
    · split <;> rename_i h <;>
        simpa [ReadConn.Pass.state, h] using ReadConn.rearrange_blk t s.conn.read f
    · simp
  | read n timedOut => simp only [Sys.step]; rw [ReadConn.read_eq]; simp

/-- The steps of the `sendWriteBuf` holding the mutex, stated once. -/
theorem Sys.step_lock_free {t : Tunables} {s : Sys} (h : s.lock = none) :
    s.step t .lock = ({ s with lock := some (.doubling s.conn.write.pendingSize) }, {}) := by
  simp [Sys.step, h]

theorem Sys.step_double_of {t : Tunables} {s : Sys} {ps : Nat} (h : s.lock = some (.doubling ps)) :
    s.step t .double =
      ({ s with
        conn := s.conn.setPendingSize (ps * 2)
        lock := some (.checking (ps * 2)) }, {}) := by
  simp only [Sys.step, h]

theorem Sys.step_check_of {t : Tunables} {s : Sys} {doubled : Nat} {r : UInt32}
    (h : s.lock = some (.checking doubled)) (he : s.conn.read.err = none) :
    s.step t (.check r) =
      ({ s with
        conn := if doubled > 1024 then s.conn.setPendingSize 1024 else s.conn
        lock := some (.posting ((if doubled > 1024 then s.conn.setPendingSize 1024
          else s.conn).writePost r)) }, {}) := by
  simp only [Sys.step, h, he]

theorem Sys.step_post_ok_of {t : Tunables} {s : Sys} {p : Post} (h : s.lock = some (.posting p)) :
    s.step t (.post .ok) =
      ({ s with conn := s.conn.postOk, lock := none }, { posts := [p], sent := p.frames.getLast? }) := by
  simp only [Sys.step, h]

/-- The POSTs of the retry loop are the holder's chain. -/
theorem Sys.step_post_posts (t : Tunables) (s : Sys) (res : PostResult) :
    (s.step t (.post res)).2.posts = s.posting.toList := by
  rcases hl : s.lock with _ | ⟨_ | _ | p⟩ <;> simp only [Sys.step, Sys.posting, hl] <;>
    (try cases res) <;> rfl

/-- Everything a step does to `buf` and `counter`: a step appends what a `Write` appended and
leaves `counter`, unless it is the POST of the holder that succeeds, which delivers the
payload frame of the chain it POSTs, empties `buf`, increments `counter` and frees the
mutex. -/
theorem Sys.step_write (t : Tunables) (s : Sys) (e : Event) :
    ((e.succeeds && s.posting.isSome) = false ∧ (s.step t e).2.sent = none ∧
      (s.step t e).1.conn.write.buf = s.conn.write.buf ++ (s.step t e).2.appended ∧
      (s.step t e).1.conn.write.counter = s.conn.write.counter) ∨
    (∃ p, e = .post .ok ∧ s.posting = some p ∧ (s.step t e).2.posts = [p] ∧
      (s.step t e).2.sent = p.frames.getLast? ∧ (s.step t e).2.appended = [] ∧
      (s.step t e).1.conn.write.buf = [] ∧
      (s.step t e).1.conn.write.counter = s.conn.write.counter + 1 ∧ (s.step t e).1.lock = none) := by
  cases e with
  | write p => left; simp only [Sys.step]; split <;> simp [Event.succeeds]
  | append p =>
    left
    rcases Sys.step_append t s p with ⟨-, -, h⟩ | ⟨r, h⟩ <;> simp [h, Event.succeeds]
  | lock => left; simp only [Sys.step]; split <;> simp [Event.succeeds]
  | double | check _ =>
    left
    rcases hl : s.lock with _ | ⟨_ | _ | _⟩ <;> simp only [Sys.step, hl] <;> (try split) <;>
      simp [Event.succeeds, ClientConn.setPendingSize] <;> split <;> simp
  | post res =>
    rcases hl : s.lock with _ | ⟨_ | _ | p⟩
    all_goals try (left; simp [Sys.step, hl, Event.succeeds, Sys.posting]; done)
    cases res with
    | ok => exact .inr ⟨p, rfl, by simp [Sys.posting, hl], by simp [Sys.step, hl, ClientConn.postOk]⟩
    | retry x => left; simp [Sys.step, hl, Event.succeeds]
    | expired x => left; simp [Sys.step, hl, Event.succeeds]
  | tick => left; simp [Sys.step, Event.succeeds, ClientConn.setPendingSize]
  | schedSending | close | feedError _ | take _ | read _ _ => left; simp [Sys.step, Event.succeeds]

/-- A holder in its retry loop after a step was there before it, with nothing appended, or
has just built its chain. -/
theorem Sys.step_posting (t : Tunables) (s : Sys) (e : Event) {p : Post}
    (hp : (s.step t e).1.posting = some p) :
    (s.posting = some p ∧ (s.step t e).2.appended = []) ∨
      ∃ r, e = .check r ∧ p = (s.step t e).1.conn.writePost r := by
  cases e with
  | append q =>
    rcases Sys.step_append t s q with ⟨-, hl, h⟩ | ⟨r, h⟩ <;> rw [h] at hp
    · simp [Sys.posting, hl] at hp
    · exact .inl ⟨hp, by rw [h]⟩
  | lock | double | check _ | post _ =>
    rcases hl : s.lock with _ | ⟨_ | _ | _⟩ <;> simp only [Sys.step, hl] at hp ⊢ <;>
      (try split at hp) <;> (try split at hp) <;> (try split_ifs) <;>
      simp_all [Sys.posting]
  | write q => left; cases hw : s.conn.writeCheck t <;> simp_all [Sys.step, Sys.posting]
  | tick | schedSending | close | feedError _ | take _ | read _ _ => exact .inl ⟨hp, rfl⟩

/-- A chain the holder POSTs is the one the holder built: while it holds the mutex no other
step moves `counter` or `buf`. -/
def Sys.Locked (s : Sys) : Prop := ∀ p, s.posting = some p → ∃ r, p = s.conn.writePost r

theorem Sys.Locked.step {t : Tunables} {s : Sys} (h : s.Locked) (e : Event) :
    (s.step t e).1.Locked := by
  intro p hp
  rcases Sys.step_posting t s e hp with ⟨hp₀, ha⟩ | ⟨r, -, rfl⟩
  · obtain ⟨r, rfl⟩ := h p hp₀
    obtain ⟨hi, he, hb⟩ := Sys.step_ids t s e
    rcases Sys.step_write t s e with ⟨-, -, hbuf, hc⟩ | ⟨-, -, -, -, -, -, -, -, hl⟩
    · rw [ha, List.append_nil] at hbuf
      exact ⟨r, (ClientConn.writePost_congr hi he hb hc hbuf r).symm⟩
    · simp [Sys.posting, hl] at hp
  · exact ⟨r, rfl⟩

end Toh

import Tcpmux.ClientConn.Basic

/-!
# Conservation of the client write side

Whatever the interleaving of `Write`s, ticks, the statements of `sendWriteBuf` with any
pattern of failing and retried POSTs, closes and read-side steps, every reachable state of a
`ClientConn` keeps `Conserved` (`reach_conserved`): the payloads of the successfully POSTed
frames, in send order, followed by `write.buf`, are the bytes the `Write`s appended, in the
order they took the lock; the `k`-th delivered frame carries `idx = k mod 2^32`; and the chain
the holder of the mutex POSTs is `{optSyncConnIdx} → {counter + 1, buf}` of the state as it
is, since nothing else moves `counter` or `buf` while it holds the mutex.

Every step either leaves `write.counter` alone or is the holder's POST that succeeds, which
delivers the payload frame of that POST and increments `counter` (`Sys.step_write`).  On
that, `clientConn_write_conservation` is the whole accounting of the write side, and
`sent_frame_idx` the numbering of its frames: the `2^32`-th frame carries `idx = 0`, the
chain terminator (`sendWriteBuf_idx_wraps`).

`Write` compares `len(buf)` with `MaxWriteBufferSize` before it takes the lock, so every
`Write` past that check appends: `buf` stays within the limit plus the bytes of the `Write`s
past their checks at one time (`write_backpressure`), and no closer.

`sendWriteBuf` doubles `pendingSize`, the length at which a `Write` flushes, up to 1024, and
the tick resets it to 1, without the mutex.  It is a power of two, at most 1024 but between
the store of 2048 and the cap; and it is `2 ^ min 10 n`, `n` counting the doublings since the
last tick, in every run in which no tick falls between a doubling's load and its cap
(`pendingSize_pow`).  A tick that falls there is lost.
-/

namespace Toh

/-! ## Every reachable state -/

/-- The accounting of the write side: delivered payloads then `buf` are the appended bytes,
the delivered frames are numbered `1, 2, …` modulo `2^32`, as `counter` is, and the holder's
chain is built from the state as it is. -/
structure Conserved (s : Sys) (A : List UInt8) (F : List Frame) : Prop where
  bytes : (F.map Frame.data).flatten ++ s.conn.write.buf = A
  counter : s.conn.write.counter.toNat = F.length % 2 ^ 32
  numbered : F.map (fun f => f.idx.toNat) = (List.range F.length).map fun k => (k + 1) % 2 ^ 32
  locked : s.Locked

theorem Conserved.step (t : Tunables) {s : Sys} {A : List UInt8} {F : List Frame}
    (h : Conserved s A F) (e : Event) :
    Conserved (s.step t e).1 (A ++ (s.step t e).2.appended) (F ++ (s.step t e).2.sent.toList) := by
  have hl := h.locked.step (t := t) e
  rcases Sys.step_write t s e with ⟨-, hs, hb, hc⟩ | ⟨p, -, hp, -, hs, ha, hb, hc, -⟩
  · refine ⟨?_, ?_, ?_, hl⟩ <;> simp only [hs, hb, hc, Option.toList_none, List.append_nil]
    · rw [← h.bytes, List.append_assoc]
    · exact h.counter
    · exact h.numbered
  · obtain ⟨r, rfl⟩ := h.locked p hp
    have hs' : (s.step t e).2.sent.toList = [s.conn.payloadFrame] := by rw [hs]; rfl
    refine ⟨?_, ?_, ?_, hl⟩ <;> simp only [hs', ha, hb, hc, List.append_nil]
    · simp [← h.bytes, ClientConn.payloadFrame]
    · rw [UInt32.toNat_add_one, h.counter, List.length_append, List.length_singleton,
        Nat.mod_add_mod]
    · rw [List.map_append, h.numbered, List.length_append, List.length_singleton,
        List.range_succ, List.map_append]
      simp [ClientConn.payloadFrame, UInt32.toNat_add_one, h.counter]

theorem reach_conserved {t : Tunables} {s : Sys} {A : List UInt8} {F : List Frame}
    (h : Reach t s A F) : Conserved s A F := by
  induction h with
  | init => exact ⟨rfl, rfl, rfl, fun p hp => (nomatch hp)⟩
  | step e _ ih => exact ih.step t e

/-- Below `2^32`, the frame delivered at position `k` (from 0) carries `idx = k + 1`. -/
theorem Conserved.idx_eq {s : Sys} {A : List UInt8} {F : List Frame} (h : Conserved s A F)
    {k : Nat} (hk : k < F.length) (hw : k + 1 < 2 ^ 32) : F[k].idx.toNat = k + 1 := by
  have := congrArg (·[k]?) h.numbered
  simp only [List.getElem?_map, List.getElem?_eq_getElem hk, List.getElem?_range hk,
    Option.map_some', Option.some.injEq] at this
  rwa [Nat.mod_eq_of_lt hw] at this

/-- A run from a reachable state, with what its `Write`s append and its POSTs deliver. -/
def Sys.ghost (t : Tunables) : Sys → List Event → List UInt8 × List Frame
  | _, [] => ([], [])
  | s, e :: es =>
    ((s.step t e).2.appended ++ ((s.step t e).1.ghost t es).1,
      (s.step t e).2.sent.toList ++ ((s.step t e).1.ghost t es).2)

theorem Reach.run {t : Tunables} {s : Sys} {A : List UInt8} {F : List Frame} (h : Reach t s A F) :
    ∀ es, Reach t (s.run t es) (A ++ (s.ghost t es).1) (F ++ (s.ghost t es).2) := by
  intro es
  induction es generalizing s A F with
  | nil => simpa [Sys.ghost] using h
  | cons e es ih => simpa [Sys.run, Sys.ghost] using ih (h.step e)

/-- Every frame a step delivers is the payload frame of the one POST it makes. -/
theorem Sys.step_sent (t : Tunables) (s : Sys) (e : Event) {f : Frame}
    (hf : (s.step t e).2.sent = some f) :
    ∃ p, (s.step t e).2.posts = [p] ∧ p.frames.getLast? = some f := by
  rcases Sys.step_write t s e with ⟨-, hs, -⟩ | ⟨p, -, -, hp, hs, -⟩
  · rw [hs] at hf; cases hf
  · exact ⟨p, hp, hs ▸ hf⟩

/-! ## The write side of a client connection -/

/-- In every run: each POST of `sendWriteBuf` carries `{optSyncConnIdx} → {counter + 1, buf}`
to the connection's endpoint under its key; `write.counter` grows by one exactly at a POST
that succeeds; every frame a step delivers is the payload frame of the one POST that step
makes; and the payloads of the POSTed frames in send order, followed by `write.buf`, are the
bytes of the `Write`s that returned, in the order their appends took the lock. -/
theorem clientConn_write_conservation {t : Tunables} {s : Sys} {A : List UInt8}
    {F : List Frame} (h : Reach t s A F) :
    (∀ res, ∀ p ∈ (s.step t (.post res)).2.posts, ∃ r,
      p = ⟨s.conn.endpoint, s.conn.read.blk, [⟨r, s.conn.idx, optSyncConnIdx, []⟩,
        ⟨s.conn.write.counter + 1, s.conn.idx, 0, s.conn.write.buf⟩]⟩) ∧
    (∀ e, (s.step t e).1.conn.write.counter =
      if e.succeeds && s.posting.isSome then s.conn.write.counter + 1
      else s.conn.write.counter) ∧
    (∀ e f, (s.step t e).2.sent = some f →
      ∃ p, (s.step t e).2.posts = [p] ∧ p.frames.getLast? = some f) ∧
    (F.map Frame.data).flatten ++ s.conn.write.buf = A := by
  have hc := reach_conserved h
  refine ⟨fun res p hp => ?_, fun e => ?_, fun e f => Sys.step_sent t s e, hc.bytes⟩
  · rw [Sys.step_post_posts, Option.mem_toList] at hp
    exact hc.locked p hp
  · rcases Sys.step_write t s e with ⟨h1, -, -, hc⟩ | ⟨p, rfl, hp, -, -, -, -, hc, -⟩
    · simp [h1, hc]
    · simp [hp, hc, Event.succeeds]

theorem clientConn_write_conservation_after_post :
    let es := [Event.write [104], .append [104], .lock, .double, .check 5,
      .post (.retry ⟨"remote is unavailable: 503 Service Unavailable"⟩), .post .ok,
      .write [105], .append [105]]
    let s := (Sys.init "http://127.0.0.1:20001/" (cipherKey "net1") 7).run Tunables.default es
    Reach Tunables.default s [104, 105] [⟨1, 7, 0, [104]⟩] ∧ s.conn.write.buf = [105] ∧
    ((∀ res, ∀ p ∈ (s.step Tunables.default (.post res)).2.posts, ∃ r,
      p = ⟨s.conn.endpoint, s.conn.read.blk, [⟨r, s.conn.idx, optSyncConnIdx, []⟩,
        ⟨s.conn.write.counter + 1, s.conn.idx, 0, s.conn.write.buf⟩]⟩) ∧
    (∀ e, (s.step Tunables.default e).1.conn.write.counter =
      if e.succeeds && s.posting.isSome then s.conn.write.counter + 1
      else s.conn.write.counter) ∧
    (∀ e f, (s.step Tunables.default e).2.sent = some f →
      ∃ p, (s.step Tunables.default e).2.posts = [p] ∧ p.frames.getLast? = some f) ∧
    (([⟨1, 7, 0, [104]⟩] : List Frame).map Frame.data).flatten ++ s.conn.write.buf =
      [104, 105]) := by
  intro es s
  have h : Reach Tunables.default s [104, 105] [⟨1, 7, 0, [104]⟩] :=
    (Reach.init "http://127.0.0.1:20001/" (cipherKey "net1") 7).run es
  exact ⟨h, rfl, clientConn_write_conservation h⟩

/-- The payload frame of the `k`-th successful POST (counting from 1) carries `idx = k mod 2^32`:
below `2^32` this is `k` itself, never the terminator value 0.  The leading `optSyncConnIdx`
frame of every chain carries the random draw `r` of its `check` unchanged, and every frame a
step delivers is the payload frame of the one POST that step makes. -/
theorem sent_frame_idx {t : Tunables} {s : Sys} {A : List UInt8} {F : List Frame}
    (h : Reach t s A F) :
    (∀ r p, s.posting = none → (s.step t (.check r)).1.posting = some p →
      p.frames.head? = some ⟨r, s.conn.idx, optSyncConnIdx, []⟩) ∧
    (∀ e f, (s.step t e).2.sent = some f →
      ∃ p, (s.step t e).2.posts = [p] ∧ p.frames.getLast? = some f) ∧
    F.map (fun f => f.idx.toNat) = (List.range F.length).map (fun k => (k + 1) % 2 ^ 32) ∧
    ∀ k f, F[k]? = some f → k + 1 < 2 ^ 32 → f.idx.toNat = k + 1 ∧ f.idx ≠ 0 := by
  have hc := reach_conserved h
  refine ⟨fun r p hn hp => ?_, fun e f => Sys.step_sent t s e, hc.numbered, fun k f hf hk => ?_⟩
  · rcases Sys.step_posting t s (.check r) hp with ⟨hp₀, -⟩ | ⟨r', he, rfl⟩
    · rw [hn] at hp₀; cases hp₀
    · cases he
      rw [← (Sys.step_ids t s (.check r)).1]
      rfl
  obtain ⟨hk', rfl⟩ := List.getElem?_eq_some_iff.1 hf
  have := hc.idx_eq hk' hk
  exact ⟨this, fun h0 => by simp [h0] at this⟩

theorem sent_frame_idx_second :
    let s := (Sys.init "http://127.0.0.1:20001/" (cipherKey "net1") 7).run Tunables.default
      [.write [104], .append [104], .lock, .double, .check 5, .post .ok, .write [105],
        .append [105], .lock, .double]
    Reach Tunables.default s [104, 105] [⟨1, 7, 0, [104]⟩] ∧
    ((∀ r p, s.posting = none → (s.step Tunables.default (.check r)).1.posting = some p →
      p.frames.head? = some ⟨r, s.conn.idx, optSyncConnIdx, []⟩) ∧
    (∀ e f, (s.step Tunables.default e).2.sent = some f →
      ∃ p, (s.step Tunables.default e).2.posts = [p] ∧ p.frames.getLast? = some f) ∧
    ([⟨1, 7, 0, [104]⟩] : List Frame).map (fun f => f.idx.toNat) =
      (List.range 1).map (fun k => (k + 1) % 2 ^ 32) ∧
    ∀ k f, ([⟨1, 7, 0, [104]⟩] : List Frame)[k]? = some f → k + 1 < 2 ^ 32 →
      f.idx.toNat = k + 1 ∧ f.idx ≠ 0) := by
  intro s
  have h : Reach Tunables.default s [104, 105] [⟨1, 7, 0, [104]⟩] :=
    (Reach.init "http://127.0.0.1:20001/" (cipherKey "net1") 7).run _
  exact ⟨h, sent_frame_idx h⟩

/-! ## Wrap-around -/

/-- A whole `sendWriteBuf` whose first POST succeeds, from a free mutex and a read side
without error: it delivers `{counter + 1, buf}` and leaves the mutex free and the read side
as it was. -/
theorem Sys.sendWriteBuf_ok (t : Tunables) {s : Sys} (hl : s.lock = none)
    (he : s.conn.read.err = none) (r : UInt32) :
    (s.run t [.lock, .double, .check r, .post .ok]).lock = none ∧
    (s.run t [.lock, .double, .check r, .post .ok]).conn.read = s.conn.read ∧
    (s.ghost t [.lock, .double, .check r, .post .ok]).2 = [s.conn.payloadFrame] := by
  simp [Sys.run, Sys.ghost, Sys.step, hl, he, ClientConn.setPendingSize, ClientConn.postOk,
    ClientConn.writePost]
  split <;> exact ⟨rfl, rfl⟩

/-- From a connection whose read side has no error, `n` successful `sendWriteBuf` calls
deliver `n` frames. -/
theorem exists_reach_sent (t : Tunables) (endpoint : String) (blk : List UInt8) (idx : UInt64) :
    ∀ n, ∃ s A F, Reach t s A F ∧ F.length = n ∧ s.conn.read.err = none ∧ s.lock = none := by
  intro n
  induction n with
  | zero => exact ⟨_, _, _, .init endpoint blk idx, rfl, rfl, rfl⟩
  | succ n ih =>
    obtain ⟨s, A, F, h, hn, he, hl⟩ := ih
    obtain ⟨hl', hr, hg⟩ := Sys.sendWriteBuf_ok t hl he 0
    exact ⟨_, _, _, h.run _, by simp [hg, hn], by rw [hr, he], hl'⟩

/-- The `2^32`-th successful POST of a connection carries `idx = 0`, the chain terminator,
right after the one carrying `idx = 2^32 - 1`, the last value the peer's counter reaches. -/
theorem sendWriteBuf_idx_wraps :
    ∃ s A F, Reach Tunables.default s A F ∧ F.length = 2 ^ 32 ∧
      ∃ f f', F[2 ^ 32 - 2]? = some f' ∧ f'.idx.toNat = 2 ^ 32 - 1 ∧
        F[2 ^ 32 - 1]? = some f ∧ f.idx = 0 := by
  obtain ⟨s, A, F, h, hl, -⟩ :=
    exists_reach_sent Tunables.default "http://127.0.0.1:20001/" (cipherKey "net1") 7 (2 ^ 32)
  have hn := (reach_conserved h).numbered
  have hb : 2 ^ 32 - 1 < F.length := by omega
  refine ⟨s, A, F, h, hl, F[2 ^ 32 - 1], F[2 ^ 32 - 2], List.getElem?_eq_getElem (by omega),
    ?_, List.getElem?_eq_getElem hb, ?_⟩
  · have := congrArg (·[2 ^ 32 - 2]?) hn
    simp only [List.getElem?_map, List.getElem?_eq_getElem (by omega : 2 ^ 32 - 2 < F.length),
      hl, List.getElem?_range (by omega : 2 ^ 32 - 2 < 2 ^ 32), Option.map_some',
      Option.some.injEq] at this
    exact this.trans (by norm_num)
  · have := congrArg (·[2 ^ 32 - 1]?) hn
    simp only [List.getElem?_map, List.getElem?_eq_getElem hb, hl,
      List.getElem?_range (by omega : 2 ^ 32 - 1 < 2 ^ 32), Option.map_some',
      Option.some.injEq] at this
    exact UInt32.toNat.inj (by rw [this]; rfl)

/-! ## Backpressure -/

/-- The bytes of the `Write`s past their checks that have not appended yet. -/
def Sys.pending (s : Sys) : Nat := (s.writers.map List.length).sum

/-- A `Write` passes its checks only when `buf` holds at most `MaxWriteBufferSize` bytes. -/
theorem ClientConn.writeCheck_pass {t : Tunables} {c : ClientConn} (h : c.writeCheck t = .pass) :
    c.write.buf.length ≤ t.maxWriteBufferSize := by
  unfold ClientConn.writeCheck at h
  split at h
  · cases h
  · split_ifs at h with h₁ h₂
    exact Nat.not_lt.1 h₂

/-- A step holds no more bytes, buffered or about to be appended, than before, unless it is a
`Write` passing its checks, which finds at most `MaxWriteBufferSize` bytes in `buf`. -/
theorem Sys.step_held (t : Tunables) (s : Sys) (e : Event) :
    (s.step t e).1.conn.write.buf.length + (s.step t e).1.pending ≤
      s.conn.write.buf.length + s.pending ∨
    (s.step t e).1.conn.write.buf.length ≤ t.maxWriteBufferSize := by
  cases e with
  | write p =>
    simp only [Sys.step]
    split
    · exact .inl le_rfl
    · exact .inl le_rfl
    · exact .inr (ClientConn.writeCheck_pass ‹_›)
  | append p =>
    left
    rcases Sys.step_append t s p with ⟨hp, -, h⟩ | ⟨r, h⟩ <;> rw [h]
    obtain ⟨l₁, l₂, -, hl, he⟩ := List.exists_erase_eq hp
    simp only [ClientConn.writeAppend_write_buf, Sys.pending, he]
    simp only [hl, List.length_append, List.map_append, List.map_cons, List.sum_append,
      List.sum_cons]
    omega
  | lock | double | check _ | post _ =>
    left
    rcases hl : s.lock with _ | ⟨_ | _ | _⟩ <;> simp only [Sys.step, hl] <;> (try split) <;>
      (try split) <;> simp [Sys.pending, ClientConn.setPendingSize, ClientConn.postOk]
  | tick | schedSending | close | feedError _ | take _ | read _ _ =>
    left; simp [Sys.step, Sys.pending, ClientConn.setPendingSize]

/-- Along a run in which the `Write`s past their checks never hold more than `N` bytes at
once, the bytes buffered and about to be appended stay within `MaxWriteBufferSize + N`. -/
theorem Sys.run_held (t : Tunables) (N : Nat) :
    ∀ (es : List Event) (s : Sys),
      s.conn.write.buf.length + s.pending ≤ t.maxWriteBufferSize + N →
      (∀ k ≤ es.length, (s.run t (es.take k)).pending ≤ N) →
      (s.run t es).conn.write.buf.length + (s.run t es).pending ≤ t.maxWriteBufferSize + N
  | [], _, h, _ => h
  | e :: es, s, h, hN => by
    have h1 : (s.step t e).1.pending ≤ N := hN 1 (Nat.le_add_left 1 es.length)
    refine Sys.run_held t N es _ ?_ fun k hk => hN (k + 1) (Nat.succ_le_succ hk)
    rcases Sys.step_held t s e with h' | h' <;> omega

/-- `Write` checks the buffer before it takes the write lock, so writers past the check may
all append: in every run of a connection in which the `Write`s past their checks never hold
more than `N` bytes at once, `write.buf` together with those bytes stays within
`MaxWriteBufferSize + N`. -/
theorem write_backpressure (t : Tunables) (endpoint : String) (blk : List UInt8) (idx : UInt64)
    (es : List Event) (N : Nat)
    (hN : ∀ k ≤ es.length, ((Sys.init endpoint blk idx).run t (es.take k)).pending ≤ N) :
    ((Sys.init endpoint blk idx).run t es).conn.write.buf.length +
      ((Sys.init endpoint blk idx).run t es).pending ≤ t.maxWriteBufferSize + N :=
  Sys.run_held t N es _ (by simp [Sys.init, Sys.pending, ClientConn.newClientConn]) hN

/-- Two `Write`s of three bytes past their checks at once, under a two-byte limit: the
buffer ends at six bytes, and a third `Write` waits. -/
theorem write_backpressure_two_writers :
    (∀ k ≤ 4, ((Sys.init "http://127.0.0.1:20001/" (cipherKey "tcp") 7).run ⟨2, 2⟩
      ([.write [1, 2, 3], .write [4, 5, 6], .append [1, 2, 3], .append [4, 5, 6]].take k)).pending
        ≤ 6) ∧
    ((Sys.init "http://127.0.0.1:20001/" (cipherKey "tcp") 7).run ⟨2, 2⟩
      [.write [1, 2, 3], .write [4, 5, 6], .append [1, 2, 3], .append [4, 5, 6]]).conn.write.buf.length
      + ((Sys.init "http://127.0.0.1:20001/" (cipherKey "tcp") 7).run ⟨2, 2⟩
      [.write [1, 2, 3], .write [4, 5, 6], .append [1, 2, 3], .append [4, 5, 6]]).pending
      ≤ 2 + 6 ∧
    ((Sys.init "http://127.0.0.1:20001/" (cipherKey "tcp") 7).run ⟨2, 2⟩
      [.write [1, 2, 3], .write [4, 5, 6], .append [1, 2, 3], .append [4, 5, 6]]).conn.write.buf =
      [1, 2, 3, 4, 5, 6] ∧
    (((Sys.init "http://127.0.0.1:20001/" (cipherKey "tcp") 7).run ⟨2, 2⟩
      [.write [1, 2, 3], .write [4, 5, 6], .append [1, 2, 3], .append [4, 5, 6]]).step ⟨2, 2⟩
        (.write [7])).2.ret = .blocked := by
  have hN : ∀ k ≤ 4, ((Sys.init "http://127.0.0.1:20001/" (cipherKey "tcp") 7).run ⟨2, 2⟩
      ([.write [1, 2, 3], .write [4, 5, 6], .append [1, 2, 3], .append [4, 5, 6]].take k)).pending
        ≤ 6 := by decide
  exact ⟨hN, write_backpressure ⟨2, 2⟩ _ _ _ _ 6 hN, by decide, by decide⟩

/-! ## Batching -/

/-- The event is the tick callback's `pendingSize = 1`. -/
def Event.isTick : Event → Bool
  | .tick => true
  | _ => false

/-- The event is the store of `pendingSize *= 2`. -/
def Event.isDouble : Event → Bool
  | .double => true
  | _ => false

/-- The count of doublings since the last tick, after one more event. -/
def countSinceTick (n : Nat) (e : Event) : Nat :=
  if e.isTick then 0 else if e.isDouble then n + 1 else n

/-- The doublings of `pendingSize` in a run after its last tick. -/
def sendsSinceTick (es : List Event) : Nat := es.foldl countSinceTick 0

/-- The holder of the mutex is at its load of `pendingSize`. -/
def Sys.loaded (s : Sys) : Bool :=
  match s.lock with
  | some (.doubling _) => true
  | _ => false

/-- The holder of the mutex is between its load of `pendingSize` and its cap. -/
def Sys.torn (s : Sys) : Bool :=
  match s.lock with
  | some (.doubling _) | some (.checking _) => true
  | _ => false

/-- No tick of the run falls between a doubling's load and its cap, and every `double` of it
is the store of a holder at its load. -/
def Sys.untorn (t : Tunables) : Sys → List Event → Bool
  | _, [] => true
  | s, e :: es =>
    (!e.isTick || !s.torn) && (!e.isDouble || s.loaded) && (s.step t e).1.untorn t es

/-- The event is the tick or a statement of the `sendWriteBuf` holding the mutex. -/
def Event.holder : Event → Bool
  | .tick | .lock | .double | .check _ | .post _ => true
  | _ => false

/-- Steps other than the tick and the holder's leave `pendingSize` and the holder alone. -/
theorem Sys.step_pendingSize_frame (t : Tunables) (s : Sys) {e : Event} (he : e.holder = false) :
    (s.step t e).1.conn.write.pendingSize = s.conn.write.pendingSize ∧
      (s.step t e).1.lock = s.lock := by
  cases e with
  | write p => simp only [Sys.step]; split <;> exact ⟨rfl, rfl⟩
  | append p => rcases Sys.step_append t s p with ⟨-, -, h⟩ | ⟨r, h⟩ <;> simp [h]
  | schedSending | close | feedError _ | take _ | read _ _ => simp [Sys.step]
  | tick | lock | double | check _ | post _ => cases he

/-- What the loads, stores and doublings hold: powers of two up to 1024, and 2048 only
between a doubling's store and its cap. -/
structure Pow (s : Sys) : Prop where
  size : (∃ k ≤ 10, s.conn.write.pendingSize = 2 ^ k) ∨
    (s.conn.write.pendingSize = 2048 ∧ s.lock = some (.checking 2048))
  loaded : ∀ ps, s.lock = some (.doubling ps) → ∃ k ≤ 10, ps = 2 ^ k
  doubled : ∀ d, s.lock = some (.checking d) → ∃ k ≤ 10, d = 2 ^ (k + 1)

theorem Pow.step {t : Tunables} {s : Sys} (h : Pow s) (e : Event) : Pow (s.step t e).1 := by
  cases hh : e.holder
  · obtain ⟨hp, hl⟩ := Sys.step_pendingSize_frame t s hh
    exact ⟨by rw [hp, hl]; exact h.size, by rw [hl]; exact h.loaded, by rw [hl]; exact h.doubled⟩
  cases e with
  | tick => exact ⟨.inl ⟨0, by omega, rfl⟩, h.loaded, h.doubled⟩
  | lock =>
    cases hl : s.lock with
    | none =>
      have hs := h.size.resolve_right (by simp [hl])
      simp only [Sys.step, hl, Option.isNone_none, if_true]
      exact ⟨.inl hs, fun ps hps => by cases hps; exact hs, fun _ h' => (by cases h')⟩
    | some _ => simpa [Sys.step, hl] using h
  | double =>
    rcases hl : s.lock with _ | ⟨ps | d | p⟩ <;> simp only [Sys.step, hl] <;> try exact h
    obtain ⟨k, hk, rfl⟩ := h.loaded ps hl
    refine ⟨?_, fun _ h' => (by cases h'), fun d h' => ⟨k, hk, by cases h'; rw [pow_succ]⟩⟩
    rcases Nat.lt_or_ge k 10 with hk' | hk'
    · exact .inl ⟨k + 1, hk', by simp [ClientConn.setPendingSize, pow_succ]⟩
    · obtain rfl : k = 10 := by omega
      exact .inr ⟨rfl, rfl⟩
  | check r =>
    rcases hl : s.lock with _ | ⟨ps | d | p⟩ <;> simp only [Sys.step, hl] <;> try exact h
    obtain ⟨k, hk, rfl⟩ := h.doubled d hl
    have hs : ∃ j ≤ 10, (if 2 ^ (k + 1) > 1024 then s.conn.setPendingSize 1024
        else s.conn).write.pendingSize = 2 ^ j := by
      split
      · exact ⟨10, le_rfl, rfl⟩
      · refine h.size.resolve_right fun ⟨_, h'⟩ => ?_
        simp only [hl, Option.some.injEq, Holder.checking.injEq] at h'
        omega
    split <;> exact ⟨.inl hs, fun _ h' => (by cases h'), fun _ h' => (by cases h')⟩
  | post res =>
    rcases hl : s.lock with _ | ⟨ps | d | p⟩ <;> cases res <;> simp only [Sys.step, hl] <;>
      try exact h
    all_goals exact ⟨.inl (h.size.resolve_right (by simp [hl])), fun _ h' => (by cases h'),
      fun _ h' => (by cases h')⟩
  | _ => cases hh

/-- Along a run without torn ticks, `pendingSize` is `2 ^ min 10 n`, `n` counting the
doublings since the last tick, but between a store of 2048 and its cap. -/
structure Batched (s : Sys) (n : Nat) : Prop where
  size : s.lock ≠ some (.checking 2048) → s.conn.write.pendingSize = 2 ^ min 10 n
  loaded : ∀ ps, s.lock = some (.doubling ps) → ps = 2 ^ min 10 n
  doubled : ∀ d, s.lock = some (.checking d) →
    1 ≤ n ∧ d = 2 * 2 ^ min 10 (n - 1) ∧ s.conn.write.pendingSize = d

theorem min_two_mul_pow_min (n : Nat) : min (2 * 2 ^ min 10 n) 1024 = 2 ^ min 10 (n + 1) := by
  rcases Nat.lt_or_ge n 10 with h | h
  · rw [Nat.min_eq_right h.le, Nat.min_eq_right (by omega : n + 1 ≤ 10), pow_succ, Nat.mul_comm]
    exact Nat.min_eq_left (by
      calc 2 ^ n * 2 = 2 ^ (n + 1) := (pow_succ 2 n).symm
        _ ≤ 2 ^ 10 := Nat.pow_le_pow_right (by decide) (by omega))
  · rw [Nat.min_eq_left h, Nat.min_eq_left (by omega : 10 ≤ n + 1)]; rfl

/-- A doubling below the cap is the next power in the count. -/
theorem two_mul_pow_min {n : Nat} (h : 2 * 2 ^ min 10 n ≠ 2048) :
    2 * 2 ^ min 10 n = 2 ^ min 10 (n + 1) := by
  rw [← min_two_mul_pow_min]
  refine (Nat.min_eq_left ?_).symm
  rcases Nat.lt_or_ge n 10 with hn | hn
  · calc 2 * 2 ^ min 10 n = 2 ^ (min 10 n + 1) := (pow_succ' 2 _).symm
      _ ≤ 2 ^ 10 := Nat.pow_le_pow_right (by decide) (by omega)
  · rw [Nat.min_eq_left hn] at h; exact absurd rfl h

theorem Batched.step {t : Tunables} {s : Sys} {n : Nat} (h : Batched s n) (e : Event)
    (ht : e.isTick = true → s.torn = false) (hd : e.isDouble = true → s.loaded = true) :
    Batched (s.step t e).1 (countSinceTick n e) := by
  cases hh : e.holder
  · obtain ⟨hp, hl⟩ := Sys.step_pendingSize_frame t s hh
    have hc : countSinceTick n e = n := by
      cases e <;> first | rfl | cases hh
    rw [hc]
    exact ⟨by rw [hp, hl]; exact h.size, by rw [hl]; exact h.loaded,
      by rw [hl, hp]; exact h.doubled⟩
  cases e with
  | tick =>
    have htorn := ht rfl
    refine ⟨fun _ => rfl, fun ps hps => ?_, fun d hps => ?_⟩ <;>
      simp only [Sys.step] at hps <;> simp [Sys.torn, hps] at htorn
  | lock =>
    cases hl : s.lock with
    | none =>
      have hs := h.size (by simp [hl])
      simp only [Sys.step, hl, Option.isNone_none, if_true]
      exact ⟨fun _ => hs, fun ps hps => by cases hps; exact hs, fun _ h' => (by cases h')⟩
    | some _ => simpa [Sys.step, hl, countSinceTick, Event.isTick, Event.isDouble] using h
  | double =>
    have hlo := hd rfl
    rcases hl : s.lock with _ | ⟨ps | d | p⟩ <;> simp only [Sys.loaded, hl] at hlo <;> try cases hlo
    have hps := h.loaded ps hl
    simp only [Sys.step, hl, countSinceTick, Event.isTick, Event.isDouble, if_false, if_true,
      Bool.false_eq_true]
    refine ⟨fun hne => ?_, fun _ h' => (by cases h'), fun d h' => ?_⟩
    · have : ps * 2 ≠ 2048 := fun h2 => hne (by rw [h2])
      rw [hps, Nat.mul_comm] at this ⊢
      exact two_mul_pow_min this
    · cases h'
      exact ⟨by omega, by rw [hps, Nat.mul_comm, Nat.add_sub_cancel], rfl⟩
  | check r =>
    rcases hl : s.lock with _ | ⟨ps | d | p⟩ <;>
      simp only [Sys.step, hl, countSinceTick, Event.isTick, Event.isDouble, if_false,
        Bool.false_eq_true] <;> try exact h
    obtain ⟨hn, hd', hp⟩ := h.doubled d hl
    have hs : (if d > 1024 then s.conn.setPendingSize 1024 else s.conn).write.pendingSize =
        2 ^ min 10 n := by
      have := min_two_mul_pow_min (n - 1)
      rw [Nat.sub_add_cancel hn, ← hd'] at this
      rw [← this]
      split <;> simp [ClientConn.setPendingSize, hp] <;> omega
    split <;> exact ⟨fun _ => hs, fun _ h' => (by cases h'), fun _ h' => (by cases h')⟩
  | post res =>
    rcases hl : s.lock with _ | ⟨ps | d | p⟩ <;> cases res <;>
      simp only [Sys.step, hl, countSinceTick, Event.isTick, Event.isDouble, if_false,
        Bool.false_eq_true] <;> try exact h
    all_goals exact ⟨fun _ => h.size (by simp [hl]), fun _ h' => (by cases h'),
      fun _ h' => (by cases h')⟩
  | _ => cases hh

theorem Sys.run_batched (t : Tunables) :
    ∀ (es : List Event) (s : Sys) (n : Nat), Batched s n → s.untorn t es = true →
      Batched (s.run t es) (es.foldl countSinceTick n)
  | [], _, _, h, _ => h
  | e :: es, s, n, h, hu => by
    simp only [Sys.untorn, Bool.and_eq_true, Bool.or_eq_true, Bool.not_eq_true'] at hu
    obtain ⟨⟨ht, hd⟩, hu⟩ := hu
    exact Sys.run_batched t es _ _ (h.step e (fun h' => ht.resolve_left (by simp [h']))
      (fun h' => hd.resolve_left (by simp [h']))) hu

theorem Sys.run_pow (t : Tunables) :
    ∀ (es : List Event) (s : Sys), Pow s → Pow (s.run t es)
  | [], _, h => h
  | e :: es, _, h => Sys.run_pow t es _ (h.step e)

/-- The flush threshold of `Write`: in every run of a connection from `newClientConn`,
`pendingSize` is a power of two, at most 1024 but between a doubling's store of 2048 and its
cap; and in every run in which no tick falls between a doubling's load of `pendingSize` and
its cap, it is `2 ^ min 10 n`, `n` counting the doublings since the last tick, so a `Write`
flushes at once after a tick and waits for up to 1024 bytes after ten sends. -/
theorem pendingSize_pow (t : Tunables) (endpoint : String) (blk : List UInt8) (idx : UInt64)
    (es : List Event) :
    ((∃ k ≤ 10, ((Sys.init endpoint blk idx).run t es).conn.write.pendingSize = 2 ^ k) ∨
      (((Sys.init endpoint blk idx).run t es).conn.write.pendingSize = 2048 ∧
        ((Sys.init endpoint blk idx).run t es).lock = some (.checking 2048))) ∧
    ((Sys.init endpoint blk idx).untorn t es = true →
      ((Sys.init endpoint blk idx).run t es).lock ≠ some (.checking 2048) →
      ((Sys.init endpoint blk idx).run t es).conn.write.pendingSize =
        2 ^ min 10 (sendsSinceTick es)) := by
  refine ⟨(Sys.run_pow t es _ ⟨.inl ⟨0, by omega, rfl⟩, fun _ h => (by cases h),
    fun _ h => (by cases h)⟩).size, fun hu hc => ?_⟩
  exact (Sys.run_batched t es _ 0 ⟨fun _ => rfl, fun _ h => (by cases h), fun _ h => (by cases h)⟩
    hu).size hc

/-- Two `sendWriteBuf`s one after the other double the threshold twice; a tick that falls
between the load and the store of a doubling is lost, and the threshold is then twice what it
should be. -/
theorem pendingSize_pow_two_sends :
    let es := [Event.lock, .double, .check 5, .post .ok, .lock, .double, .check 6, .post .ok]
    ((∃ k ≤ 10, ((Sys.init "http://127.0.0.1:20001/" (cipherKey "tcp") 7).run Tunables.default
        es).conn.write.pendingSize = 2 ^ k) ∨
      (((Sys.init "http://127.0.0.1:20001/" (cipherKey "tcp") 7).run Tunables.default
        es).conn.write.pendingSize = 2048 ∧
        ((Sys.init "http://127.0.0.1:20001/" (cipherKey "tcp") 7).run Tunables.default
          es).lock = some (.checking 2048))) ∧
    (Sys.init "http://127.0.0.1:20001/" (cipherKey "tcp") 7).untorn Tunables.default es = true ∧
    ((Sys.init "http://127.0.0.1:20001/" (cipherKey "tcp") 7).run Tunables.default es).lock ≠
      some (.checking 2048) ∧
    ((Sys.init "http://127.0.0.1:20001/" (cipherKey "tcp") 7).run Tunables.default
      es).conn.write.pendingSize = 2 ^ min 10 (sendsSinceTick es) ∧
    ((Sys.init "http://127.0.0.1:20001/" (cipherKey "tcp") 7).run Tunables.default
      [.lock, .double, .check 5, .post .ok, .lock, .tick, .double, .check 6, .post .ok]).conn.write.pendingSize
      = 4 ∧
    sendsSinceTick [.lock, .double, .check 5, .post .ok, .lock, .tick, .double, .check 6, .post .ok] = 1 := by
  intro es
  have hu : (Sys.init "http://127.0.0.1:20001/" (cipherKey "tcp") 7).untorn Tunables.default es =
      true := by decide
  have hc : ((Sys.init "http://127.0.0.1:20001/" (cipherKey "tcp") 7).run Tunables.default
      es).lock ≠ some (.checking 2048) := by decide
  obtain ⟨h1, h2⟩ := pendingSize_pow Tunables.default "http://127.0.0.1:20001/" (cipherKey "tcp") 7 es
  exact ⟨h1, hu, hc, h2 hu hc, by decide, by decide⟩

end Toh

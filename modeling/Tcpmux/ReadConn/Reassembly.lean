import Tcpmux.ReadConn.Basic

/-!
# Reassembly on the read side: what every run keeps, and where it breaks

Every run of a read side (frames taken in any order, `Read`s, `feedError`s and `close`s in
between) keeps, between two passes of `readLoopRearrange`:

* every index filed in `futureframes` is above `counter + 1`, and the map holds no more bytes
  than `futureSize` counts (`Tidy`);
* while the goroutine runs, `futureSize ≤ MaxWriteBufferSize` (`run_tidy`);
* for a stream whose frame `i` carries `D i`, the bytes all `Read`s returned followed by
  `buf` are `D 1 ++ … ++ D counter` (`Reassembled`, `run_reassembled`).

`buf` itself has no bound (`readSide_memory`, `readSide_buf_exceeds_bound`).  `futureSize`
counts a frame that arrives twice before its turn twice, while the map keeps one copy
(`futureSize_counts_duplicate`), and a frame at or below `counter` ends the goroutine, so a
duplicate of a delivered frame stops delivery for good (`readLoop_stops_at_stale_frame`).
-/

namespace Toh

namespace ReadConn

/-- `D 1 ++ D 2 ++ … ++ D k`: the first `k` payloads of a stream whose frame `i` carries
`D i`. -/
def stream (D : Nat → List UInt8) : Nat → List UInt8
  | 0 => []
  | k + 1 => stream D k ++ D (k + 1)

/-- Every frame `futureframes` holds is filed above `counter + 1`, and the map holds no more
bytes than `futureSize` counts. -/
structure Tidy (c : ReadConn) : Prop where
  above : ∀ k f, c.futureframes.lookup k = some f → c.counter + 1 < k
  held_le : (c.futureframes.held : Int) ≤ c.futureSize

/-- The application has read `out`, and `out ++ buf` is the stream up to `counter`; every
frame held early carries its stream payload. -/
structure Reassembled (D : Nat → List UInt8) (out : List UInt8) (c : ReadConn) : Prop where
  stream_eq : out ++ c.buf = stream D c.counter
  data_eq : ∀ k f, c.futureframes.lookup k = some f → f.data = D k

theorem Tidy.close {c : ReadConn} (hc : Tidy c) : Tidy c.close := by
  rw [close_eq]; exact ⟨hc.above, hc.held_le⟩

theorem Tidy.feedError {c : ReadConn} (hc : Tidy c) (e : Err) : Tidy (c.feedError e) :=
  Tidy.close (c := { c with err := some e }) ⟨hc.above, hc.held_le⟩

theorem Reassembled.close {D : Nat → List UInt8} {out : List UInt8} {c : ReadConn}
    (hc : Reassembled D out c) : Reassembled D out c.close := by
  rw [close_eq]; exact ⟨hc.stream_eq, hc.data_eq⟩

theorem Reassembled.feedError {D : Nat → List UInt8} {out : List UInt8} {c : ReadConn}
    (hc : Reassembled D out c) (e : Err) : Reassembled D out (c.feedError e) :=
  Reassembled.close (c := { c with err := some e }) ⟨hc.stream_eq, hc.data_eq⟩

theorem tidy_newReadConn (idx : UInt32) (blk : List UInt8) : Tidy (newReadConn idx blk) :=
  ⟨by simp [newReadConn], by simp [newReadConn, FutureFrames.held_empty]⟩

theorem reassembled_newReadConn (D : Nat → List UInt8) (idx : UInt32) (blk : List UInt8) :
    Reassembled D [] (newReadConn idx blk) :=
  ⟨by simp [newReadConn, stream], by simp [newReadConn]⟩

/-! ## Drain -/

theorem deliver_futureSize_sub_held {c : ReadConn} {f : Frame}
    (h : c.futureframes.lookup (c.counter + 1) = some f) :
    (c.deliver f).futureSize - (c.deliver f).futureframes.held =
      c.futureSize - c.futureframes.held := by
  have hd := c.futureframes.held_delete (c.counter + 1)
  simp only [FutureFrames.heldAt, h, Option.map_some', Option.getD_some] at hd
  simp only [deliver, FutureFrames.idx_of_lookup h]
  omega

theorem drain_futureSize_sub_held (c : ReadConn) :
    c.drain.futureSize - c.drain.futureframes.held = c.futureSize - c.futureframes.held := by
  induction c using drain.induct with
  | case1 c f h ih => rw [drain_of_lookup_some h, ih, deliver_futureSize_sub_held h]
  | case2 c h => rw [drain_of_lookup_none h]

/-- Draining a map whose indices are above `counter` leaves them above `counter + 1`. -/
theorem drain_above {c : ReadConn}
    (h : ∀ k f, c.futureframes.lookup k = some f → c.counter < k) :
    ∀ k f, c.drain.futureframes.lookup k = some f → c.drain.counter + 1 < k := by
  induction c using drain.induct with
  | case1 c g hg ih =>
    rw [drain_of_lookup_some hg]
    refine ih fun k f hk => ?_
    simp only [deliver, FutureFrames.idx_of_lookup hg, FutureFrames.lookup_delete] at hk ⊢
    split at hk
    · cases hk
    · have := h k f hk; omega
  | case2 c hn =>
    rw [drain_of_lookup_none hn]
    intro k f hk
    have := h k f hk
    have : k ≠ c.counter + 1 := by rintro rfl; simp [hn] at hk
    omega

theorem drain_reassembled {D : Nat → List UInt8} {out : List UInt8} {c : ReadConn}
    (hs : out ++ c.buf = stream D c.counter)
    (hd : ∀ k f, c.futureframes.lookup k = some f → f.data = D k) :
    Reassembled D out c.drain := by
  induction c using drain.induct with
  | case1 c g hg ih =>
    rw [drain_of_lookup_some hg]
    have hi := FutureFrames.idx_of_lookup hg
    refine ih ?_ fun k f hk => ?_
    · simp only [deliver, hi, stream, ← hs, List.append_assoc, hd _ _ hg]
    · simp only [deliver, hi, FutureFrames.lookup_delete] at hk
      split at hk
      · cases hk
      · exact hd k f hk
  | case2 c hn =>
    rw [drain_of_lookup_none hn]
    exact ⟨hs, hd⟩

@[simp] theorem drain_idx (c : ReadConn) : c.drain.idx = c.idx := by
  induction c using drain.induct with
  | case1 c f h ih => rw [drain_of_lookup_some h, ih]; rfl
  | case2 c h => rw [drain_of_lookup_none h]

@[simp] theorem drain_err (c : ReadConn) : c.drain.err = c.err := by
  induction c using drain.induct with
  | case1 c f h ih => rw [drain_of_lookup_some h, ih]; rfl
  | case2 c h => rw [drain_of_lookup_none h]

@[simp] theorem drain_closed (c : ReadConn) : c.drain.closed = c.closed := by
  induction c using drain.induct with
  | case1 c f h ih => rw [drain_of_lookup_some h, ih]; rfl
  | case2 c h => rw [drain_of_lookup_none h]

@[simp] theorem drain_blk (c : ReadConn) : c.drain.blk = c.blk := by
  induction c using drain.induct with
  | case1 c f h ih => rw [drain_of_lookup_some h, ih]; rfl
  | case2 c h => rw [drain_of_lookup_none h]

/-! ## One pass -/

/-- Everything one pass of the loop body can do. -/
theorem rearrange_cases (t : Tunables) (c : ReadConn) (f : Frame) :
    (rearrange t c f = .exit (c.feedError errUnmatchedStreamIndex)) ∨
    (rearrange t c f = .exit c) ∨
    (low32 f.connIdx = c.idx ∧ c.counter < f.idx.toNat ∧
      ((t.maxWriteBufferSize < (c.insert f).drain.futureSize ∧
        rearrange t c f = .exit ((c.insert f).drain.feedError errMissingCertainFrame)) ∨
       ((c.insert f).drain.futureSize ≤ t.maxWriteBufferSize ∧
        rearrange t c f = .next (c.insert f).drain))) := by
  unfold rearrange
  by_cases h1 : low32 f.connIdx = c.idx
  · by_cases h2 : f.idx.toNat ≤ c.counter
    · exact .inr (.inl (by simp [h1, h2]))
    · refine .inr (.inr ⟨h1, by omega, ?_⟩)
      by_cases h3 : t.maxWriteBufferSize < (c.insert f).drain.futureSize
      · exact .inl ⟨h3, by simp [h1, h2, h3]⟩
      · exact .inr ⟨by omega, by simp [h1, h2, h3]⟩
  · exact .inl (by simp [h1])

/-- A pass keeps the read side's key. -/
@[simp] theorem rearrange_blk (t : Tunables) (c : ReadConn) (f : Frame) :
    (rearrange t c f).state.blk = c.blk := by
  rcases rearrange_cases t c f with h | h | ⟨-, -, ⟨-, h⟩ | ⟨-, h⟩⟩ <;> rw [h] <;>
    simp [Pass.state, feedError, insert]

theorem insert_tidy {c : ReadConn} {f : Frame} (hc : Tidy c) (hf : c.counter < f.idx.toNat) :
    (∀ k g, (c.insert f).futureframes.lookup k = some g → (c.insert f).counter < k) ∧
      ((c.insert f).futureframes.held : Int) ≤ (c.insert f).futureSize := by
  have hs := c.futureframes.held_store f
  have := hc.held_le
  refine ⟨fun k g hk => ?_, ?_⟩
  · simp only [insert, FutureFrames.lookup_store] at hk ⊢
    split at hk
    · omega
    · have := hc.above k g hk; omega
  · simp only [insert]; omega

theorem rearrange_tidy (t : Tunables) {c : ReadConn} (hc : Tidy c) (f : Frame) :
    Tidy (rearrange t c f).state := by
  rcases rearrange_cases t c f with h | h | ⟨-, hlt, h⟩
  · rw [h]; exact hc.feedError _
  · rw [h]; exact hc
  · obtain ⟨habove, hheld⟩ := insert_tidy hc hlt
    have hd : Tidy (c.insert f).drain :=
      ⟨drain_above habove, by have := drain_futureSize_sub_held (c.insert f); omega⟩
    rcases h with ⟨-, h⟩ | ⟨-, h⟩ <;> rw [h]
    · exact hd.feedError _
    · exact hd

theorem rearrange_reassembled (t : Tunables) {D : Nat → List UInt8} {out : List UInt8}
    {c : ReadConn} (hc : Reassembled D out c) {f : Frame} (hf : f.data = D f.idx.toNat) :
    Reassembled D out (rearrange t c f).state := by
  rcases rearrange_cases t c f with h | h | ⟨-, -, h⟩
  · rw [h]; exact hc.feedError _
  · rw [h]; exact hc
  · have hd : Reassembled D out (c.insert f).drain := by
      refine drain_reassembled hc.stream_eq fun k g hk => ?_
      simp only [insert, FutureFrames.lookup_store] at hk
      split at hk
      · cases hk; subst k; exact hf
      · exact hc.data_eq k g hk
    rcases h with ⟨-, h⟩ | ⟨-, h⟩ <;> rw [h]
    · exact hd.feedError _
    · exact hd

/-- A pass after which the loop goes on leaves `futureSize` within `MaxWriteBufferSize`. -/
theorem rearrange_next_bounded {t : Tunables} {c c' : ReadConn} {f : Frame}
    (h : rearrange t c f = .next c') : c'.futureSize ≤ t.maxWriteBufferSize := by
  rcases rearrange_cases t c f with h' | h' | ⟨-, -, ⟨-, h'⟩ | ⟨hle, h'⟩⟩ <;> rw [h'] at h <;>
    cases h
  exact hle

/-- The next frame in order, reaching a read side that holds nothing early, is delivered at
once. -/
theorem rearrange_in_order (t : Tunables) {c : ReadConn} {f : Frame}
    (hc : low32 f.connIdx = c.idx) (hf : f.idx.toNat = c.counter + 1)
    (hm : ∀ k, c.futureframes.lookup k = none) (hs : c.futureSize ≤ t.maxWriteBufferSize) :
    rearrange t c f = .next ((c.insert f).deliver f) := by
  have hd : (c.insert f).drain = (c.insert f).deliver f := by
    rw [drain_of_lookup_some (f := f) (by simp [insert, ← hf]), drain_of_lookup_none]
    simp [deliver, insert, FutureFrames.lookup_delete, FutureFrames.lookup_store, hm, hf]
  unfold rearrange
  rw [if_neg (not_not.2 hc), if_neg (by omega), hd, if_neg (by simp [deliver, insert]; omega)]

/-- A frame ahead of the next one in order, while that one is not held, is stored and the loop
goes on, as long as the held bytes stay within `MaxWriteBufferSize`. -/
theorem rearrange_early (t : Tunables) {c : ReadConn} {f : Frame}
    (hc : low32 f.connIdx = c.idx) (hf : c.counter + 1 < f.idx.toNat)
    (hn : c.futureframes.lookup (c.counter + 1) = none)
    (hs : c.futureSize + f.data.length ≤ t.maxWriteBufferSize) :
    rearrange t c f = .next (c.insert f) := by
  have hd : (c.insert f).drain = c.insert f :=
    drain_of_lookup_none (by simp [insert, FutureFrames.lookup_store, hn, hf.ne])
  unfold rearrange
  rw [if_neg (not_not.2 hc), if_neg (by omega), hd, if_neg (by simp [insert]; omega)]

/-! ## Runs -/

/-- An invariant that every admissible event keeps holds along every run of such events. -/
theorem Sys.run_induction (t : Tunables) (ok : Event → Prop) (P : List UInt8 → Sys → Prop)
    (hstep : ∀ e out s, ok e → P out s → P (out ++ (s.step t e).2) (s.step t e).1) :
    ∀ es out s, (∀ e ∈ es, ok e) → P out s → P (out ++ (s.run t es).2) (s.run t es).1 := by
  intro es
  induction es with
  | nil => intro out s _ h; simpa [Sys.run] using h
  | cons e es ih =>
    intro out s hes h
    have := ih _ _ (fun e' he' => hes e' (List.mem_cons_of_mem _ he'))
      (hstep e out s (hes e (List.mem_cons_self _ _)) h)
    simpa [Sys.run, List.append_assoc] using this

/-- `Tidy`, and `futureSize ≤ MaxWriteBufferSize` while the goroutine runs. -/
def Sys.Bounded (t : Tunables) (s : Sys) : Prop :=
  Tidy s.conn ∧ (s.running = true → s.conn.futureSize ≤ t.maxWriteBufferSize)

theorem Sys.step_bounded (t : Tunables) {s : Sys} (hs : s.Bounded t) (e : Event) :
    (s.step t e).1.Bounded t := by
  obtain ⟨hc, hr⟩ := hs
  cases e with
  | take f =>
    simp only [Sys.step]
    split
    · have ht := rearrange_tidy t hc f
      split <;> rename_i h <;> rw [h] at ht
      · exact ⟨ht, fun _ => rearrange_next_bounded h⟩
      · exact ⟨ht, by simp⟩
    · exact ⟨hc, hr⟩
  | read n timedOut =>
    simp only [Sys.step]
    rw [read_eq]
    exact ⟨⟨hc.above, hc.held_le⟩, hr⟩
  | feedError e => exact ⟨hc.feedError e, by simpa [Sys.step, feedError] using hr⟩
  | close => exact ⟨hc.close, by simpa [Sys.step] using hr⟩

theorem Sys.step_reassembled (t : Tunables) {D : Nat → List UInt8} {out : List UInt8}
    {s : Sys} (hs : Reassembled D out s.conn) (e : Event)
    (he : ∀ f, e = .take f → f.data = D f.idx.toNat) :
    Reassembled D (out ++ (s.step t e).2) (s.step t e).1.conn := by
  cases e with
  | take f =>
    simp only [Sys.step]
    split
    · have h := rearrange_reassembled t hs (he f rfl)
      split <;> rename_i hr <;> rw [hr] at h <;> simpa using h
    · simpa using hs
  | read n timedOut =>
    simp only [Sys.step]
    have hb := read_buf s.conn n timedOut
    rw [read_eq] at hb ⊢
    refine ⟨?_, hs.data_eq⟩
    rw [List.append_assoc, hb]
    exact hs.stream_eq
  | feedError e => simpa [Sys.step] using hs.feedError e
  | close => simpa [Sys.step] using hs.close

theorem Sys.init_bounded (t : Tunables) (idx : UInt32) (blk : List UInt8) :
    (Sys.init idx blk).Bounded t :=
  ⟨⟨by simp [Sys.init, newReadConn], by simp [Sys.init, newReadConn, FutureFrames.held_empty]⟩,
    fun _ => Int.ofNat_nonneg _⟩

/-- Every run from a fresh read side stays `Bounded`. -/
theorem run_tidy (t : Tunables) (idx : UInt32) (blk : List UInt8) (es : List Event) :
    ((Sys.init idx blk).run t es).1.Bounded t := by
  simpa using Sys.run_induction t (fun _ => True) (fun _ s => s.Bounded t)
    (fun e _ s _ h => Sys.step_bounded t h e) es [] _ (fun _ _ => trivial)
    (Sys.init_bounded t idx blk)

/-- Every run from a fresh read side whose frames carry their stream payloads reassembles
the stream: the bytes all `Read`s returned, followed by `buf`, are `D 1 ++ … ++ D counter`. -/
theorem run_reassembled (t : Tunables) (D : Nat → List UInt8) (idx : UInt32)
    (blk : List UInt8) (es : List Event) (hes : ∀ f, Event.take f ∈ es → f.data = D f.idx.toNat) :
    Reassembled D ((Sys.init idx blk).run t es).2 ((Sys.init idx blk).run t es).1.conn := by
  simpa using Sys.run_induction t (fun e => ∀ f, e = .take f → f.data = D f.idx.toNat)
    (fun out s => Reassembled D out s.conn)
    (fun e _ s he h => Sys.step_reassembled t h e he) es [] _
    (fun e he f hf => hes f (hf ▸ he)) ⟨by simp [Sys.init, newReadConn, stream], by
      simp [Sys.init, newReadConn]⟩

/-! ## Memory of a read side -/

/-- A frame at or below `counter` ends `readLoopRearrange`: after a duplicate of frame 1, frame
2 is never taken, and the stream stops at frame 1. -/
theorem readLoop_stops_at_stale_frame :
    (readLoop Tunables.default (newReadConn (low32 7) [])
      [⟨1, 7, 0, [97]⟩, ⟨1, 7, 0, [97]⟩, ⟨2, 7, 0, [98]⟩]).1.counter = 1 ∧
    (readLoop Tunables.default (newReadConn (low32 7) [])
      [⟨1, 7, 0, [97]⟩, ⟨1, 7, 0, [97]⟩, ⟨2, 7, 0, [98]⟩]).1.buf = [97] ∧
    (readLoop Tunables.default (newReadConn (low32 7) [])
      [⟨1, 7, 0, [97]⟩, ⟨1, 7, 0, [97]⟩, ⟨2, 7, 0, [98]⟩]).2 = [⟨2, 7, 0, [98]⟩] := by
  have p1 := rearrange_in_order Tunables.default (c := newReadConn (low32 7) [])
    (f := ⟨1, 7, 0, [97]⟩) rfl rfl (fun _ => rfl) (by decide)
  have p2 : rearrange Tunables.default
      (((newReadConn (low32 7) []).insert ⟨1, 7, 0, [97]⟩).deliver ⟨1, 7, 0, [97]⟩)
      ⟨1, 7, 0, [97]⟩ =
      .exit (((newReadConn (low32 7) []).insert ⟨1, 7, 0, [97]⟩).deliver ⟨1, 7, 0, [97]⟩) := by
    unfold rearrange
    rw [if_neg (by decide), if_pos (by decide)]
  simp only [readLoop, p1, p2]
  decide

/-- A frame that arrives twice before its turn is held once and counted twice. -/
theorem futureSize_counts_duplicate :
    (readLoop Tunables.default (newReadConn (low32 7) [])
      [⟨3, 7, 0, [120]⟩, ⟨3, 7, 0, [120]⟩]).1.futureSize = 2 ∧
    (readLoop Tunables.default (newReadConn (low32 7) [])
      [⟨3, 7, 0, [120]⟩, ⟨3, 7, 0, [120]⟩]).1.futureframes.held = 1 := by
  have p1 := rearrange_early Tunables.default (c := newReadConn (low32 7) [])
    (f := ⟨3, 7, 0, [120]⟩) rfl (by decide) rfl (by decide)
  have p2 := rearrange_early Tunables.default
    (c := (newReadConn (low32 7) []).insert ⟨3, 7, 0, [120]⟩) (f := ⟨3, 7, 0, [120]⟩)
    rfl (by decide) (by decide) (by decide)
  simp only [readLoop, p1, p2]
  decide

end ReadConn

end Toh

import Tcpmux.RespLoop.Reassembly
import Tcpmux.RespLoop.Stall

/-!
# The receive path of a client connection refines its read side

The read-side model `ReadConn.Sys` (`Tcpmux.ReadConn.Basic`) runs one read side over a list
of events: frames taken from `frames`, `Read`s, `feedError`s and `close`s.  Every run of the
receive path is, on its read side, such a run (`recv_simulates`): each step of the path does
at most one read-side event, and `readLoopRearrange` only ever takes frames while the model's
goroutine still runs.  So what is proved of `ReadConn.Sys` holds of the concurrent path: when
the frames the items on `respCh` carry, from bodies or from the orchestrator, hold their stream
payloads, whatever the interleaving, the faults and the duplicated or reordered frames, the
bytes the application read followed by `buf` are `D 1 ++ … ++ D counter`, and the bytes held
early stay counted by `futureSize`, within `MaxWriteBufferSize` while `readLoopRearrange` runs
(`recv_reads_stream`).
-/

namespace Toh.ReadConn

/-- The frame a read-side event takes from `frames`. -/
@[simp] def Event.frame : Event → Option Frame
  | .take f => some f
  | _ => none

theorem Sys.run_snoc (t : Tunables) (s : Sys) (es : List Event) (e : Event) :
    s.run t (es ++ [e]) =
      (((s.run t es).1.step t e).1, (s.run t es).2 ++ ((s.run t es).1.step t e).2) := by
  induction es generalizing s with
  | nil => simp [Sys.run]
  | cons e' es ih => simp [Sys.run, ih, List.append_assoc]

end Toh.ReadConn

namespace Toh.RespLoop

open ReadConn

section
variable (t : Tunables) (idx : UInt32) (blk : List UInt8)

/-- The read side of `s`, and what the run `L` read and took, are those of a run of the
read-side model from `newReadConn`, whose goroutine runs while that of `s` does. -/
def Simulated (L : List Obs) (s : Recv) : Prop :=
  ∃ es : List ReadConn.Event, ((ReadConn.Sys.init idx blk).run t es).1.conn = s.conn ∧
    ((ReadConn.Sys.init idx blk).run t es).2 = reads L ∧
    es.filterMap ReadConn.Event.frame = taken L ∧
    (s.running = true → ((ReadConn.Sys.init idx blk).run t es).1.running = true)

variable {t idx blk}

/-- A step that leaves the read side alone is a run of no read-side event. -/
theorem Simulated.keep {L L' : List Obs} {s s' : Recv} (h : Simulated t idx blk L s)
    (hc : s'.conn = s.conn) (hr : s'.running = true → s.running = true)
    (hR : reads L' = reads L) (hT : taken L' = taken L) : Simulated t idx blk L' s' := by
  obtain ⟨es, h1, h2, h3, h4⟩ := h
  exact ⟨es, h1.trans hc.symm, h2.trans hR.symm, h3.trans hT.symm, fun h' => h4 (hr h')⟩

/-- A step that does one read-side event other than taking a frame, which leaves the model's
goroutine as it is. -/
theorem Simulated.snoc {L : List Obs} {o : Option Obs} {s s' : Recv}
    (h : Simulated t idx blk L s) (ev : ReadConn.Event) (hev : ev.frame = none)
    (hs : ∀ r, (⟨s.conn, r⟩ : ReadConn.Sys).step t ev = (⟨s'.conn, r⟩, reads o.toList))
    (hr : s'.running = true → s.running = true) (hT : taken o.toList = []) :
    Simulated t idx blk (L ++ o.toList) s' := by
  obtain ⟨es, h1, h2, h3, h4⟩ := h
  have hsys : ((ReadConn.Sys.init idx blk).run t es).1 =
      ⟨s.conn, ((ReadConn.Sys.init idx blk).run t es).1.running⟩ := by rw [← h1]
  refine ⟨es ++ [ev], ?_, ?_, ?_, fun h' => ?_⟩
  · rw [Sys.run_snoc, hsys, hs]
  · rw [Sys.run_snoc, hsys, hs, h2, reads_append]
  · simp only [List.filterMap_append, List.filterMap_cons, List.filterMap_nil, hev, h3,
      taken_append, hT]
  · rw [Sys.run_snoc, hsys, hs]
    exact h4 (hr h')

/-- `readLoopRearrange` takes a frame: the model's goroutine takes it too. -/
theorem Simulated.take {L : List Obs} {s : Recv} (h : Simulated t idx blk L s)
    (hrun : s.running = true) {f : Frame} {c : ReadConn} {running : Bool}
    (hp : rearrange t s.conn f = .next c ∧ running = true ∨
      rearrange t s.conn f = .exit c ∧ running = false) (s' : Recv) (hc : s'.conn = c)
    (hr : s'.running = running) : Simulated t idx blk (L ++ [.taken f]) s' := by
  obtain ⟨es, h1, h2, h3, h4⟩ := h
  have hsys : ((ReadConn.Sys.init idx blk).run t es).1 = ⟨s.conn, true⟩ := by
    rw [← h1, ← h4 hrun]
  have hrun' : (ReadConn.Sys.init idx blk).run t (es ++ [.take f]) = (⟨c, running⟩, reads L) := by
    rw [Sys.run_snoc, hsys, h2]
    rcases hp with ⟨hp, rfl⟩ | ⟨hp, rfl⟩ <;> simp [ReadConn.Sys.step, hp]
  refine ⟨es ++ [.take f], by rw [hrun', hc], by simp [hrun'], by simp [h3], fun h' => ?_⟩
  rw [hrun']
  exact hr ▸ h'

theorem Simulated.step {L : List Obs} {s s' : Recv} {o : Option Obs} {e : Event}
    (h : Simulated t idx blk L s) (hs : RespLoop.step t s e = some (s', o)) :
    Simulated t idx blk (L ++ o.toList) s' := by
  cases e with
  | post body =>
    obtain ⟨-, rfl, rfl⟩ := step_post hs
    exact h.keep rfl id (by simp) (by simp)
  | enqueue =>
    obtain ⟨_, -, ⟨-, rfl, rfl⟩ | ⟨-, -, rfl, rfl⟩⟩ := step_enqueue hs <;>
      exact h.keep rfl id (by simp) (by simp)
  | feedError e =>
    obtain ⟨rfl, rfl⟩ := step_feedError hs
    exact h.snoc (.feedError e) rfl (fun _ => rfl) id rfl
  | dispatch f =>
    obtain ⟨-, -, ⟨-, -, ⟨-, rfl, rfl⟩ | ⟨-, rfl, rfl⟩⟩ | ⟨-, rfl, rfl⟩⟩ := step_dispatch hs
    · exact h.snoc (.feedError errPeerClosed) rfl (fun _ => rfl) id rfl
    all_goals exact h.keep rfl id (by simp) (by simp)
  | orchSend f =>
    obtain ⟨-, ⟨-, rfl, rfl⟩ | ⟨-, -, rfl, rfl⟩⟩ := step_orchSend hs <;>
      exact h.keep rfl id (by simp) (by simp)
  | take i =>
    obtain ⟨_, _, -, -, rfl, rfl⟩ := step_take hs
    exact h.keep (by simp) (by simp) (by simp) (by simp)
  | feed i =>
    obtain ⟨rfl, ⟨expectedCtr, count, body, -, rfl⟩ | ⟨_, -, rfl⟩ | ⟨_, _, -, ⟨-, rfl⟩ | ⟨-, -, rfl⟩⟩⟩ :=
      step_feed hs
    · rcases feedIter_conn s.conn expectedCtr count body with hc | ⟨e, hc⟩
      · exact h.keep (by simp [hc]) (by simp) (by simp) (by simp)
      · exact h.snoc (o := none) (.feedError e) rfl (fun _ => by simp [hc, ReadConn.Sys.step])
          (by simp) rfl
    all_goals exact h.keep (by simp) (by simp) (by simp) (by simp)
  | timeout i =>
    obtain ⟨-, rfl, rfl⟩ := step_timeout hs
    exact h.keep (by simp) (by simp) (by simp) (by simp)
  | rearrange =>
    obtain ⟨hrun, ⟨f, rest, c, running, -, hp, rfl, rfl⟩ | ⟨-, -, rfl, rfl⟩⟩ := step_rearrange hs
    · exact h.take hrun hp _ rfl rfl
    · exact h.keep rfl (by simp) (by simp) (by simp)
  | read n timedOut =>
    obtain ⟨rfl, rfl⟩ := step_read hs
    exact h.snoc (.read n timedOut) rfl (fun _ => by simp [ReadConn.Sys.step]) id rfl
  | close =>
    obtain ⟨rfl, rfl⟩ := step_close hs
    exact h.snoc (o := none) .close rfl (fun _ => by simp [ReadConn.Sys.step]) id rfl

end

/-- **The receive path refines the read-side model.**  Every run of the receive path is, on
its read side, a run of `ReadConn.Sys` from `newReadConn`: the frames `readLoopRearrange`
took, the `Read`s, and the `feedError`s and `close`s, in the order they happened. -/
theorem recv_simulates (t : Tunables) (idx : UInt32) (blk : List UInt8) {s : Recv}
    {L : List Obs} (h : Reachable (step t) (Recv.init idx blk) s L) : Simulated t idx blk L s :=
  h.inv (P := fun s L => Simulated t idx blk L s) ⟨[], rfl, rfl, rfl, fun _ => rfl⟩
    fun _ _ _ _ _ h hs => h.step hs

/-- **No byte lost, repeated or reordered on the way to the application.**  Whatever the
interleaving of the two `respLoop` goroutines, `readLoopRearrange`, `Read`, `sendWriteBuf`,
the orchestrator's ping goroutines, `Close` and the faults from outside, and whatever
duplicates or reorderings the bodies and ping responses carry: while the frames the items on
`respCh` carry hold their stream payloads `D`, what the application read followed by `buf` is
`D 1 ++ … ++ D counter`; the bytes held early are counted by `futureSize`, which stays within
`MaxWriteBufferSize` while `readLoopRearrange` runs. -/
theorem recv_reads_stream (t : Tunables) (D : Nat → List UInt8) (idx : UInt32) (blk : List UInt8)
    {s : Recv} {L : List Obs} (h : Reachable (step t) (Recv.init idx blk) s L)
    (hD : ∀ f ∈ carried L, f.data = D f.idx.toNat) :
    reads L ++ s.conn.buf = stream D s.conn.counter ∧
      (s.conn.futureframes.held : Int) ≤ s.conn.futureSize ∧
      (s.running = true → s.conn.futureSize ≤ t.maxWriteBufferSize) := by
  obtain ⟨es, hc, hr, hT, hrun⟩ := recv_simulates t idx blk h
  have htc : ∀ f ∈ taken L, f ∈ carried L := fun f hf =>
    (Multiset.coe_le.1 (le_trans (le_add_right le_rfl) (flow_of_reach h))).subset hf
  have hes : ∀ f, ReadConn.Event.take f ∈ es → f.data = D f.idx.toNat := fun f hf =>
    hD f (htc f (hT ▸ List.mem_filterMap.2 ⟨_, hf, rfl⟩))
  obtain ⟨hti, hbd⟩ := run_tidy t idx blk es
  rw [hc] at hti hbd
  refine ⟨?_, hti.held_le, fun h' => hbd (hrun h')⟩
  have := (run_reassembled t D idx blk es hes).stream_eq
  rwa [hc, hr] at this

/-- The duplicate that stops `readLoopRearrange`: the stream is still what the application can
read. -/
theorem recv_reads_stream_duplicate :
    (∀ f ∈ carried [.enqueued (.body [some ⟨1, 7, 0, [1]⟩, some ⟨0, 7, 0, []⟩]), .taken ⟨1, 7, 0, [1]⟩,
        .enqueued (.body [some ⟨1, 7, 0, [1]⟩, some ⟨0, 7, 0, []⟩]), .taken ⟨1, 7, 0, [1]⟩],
        f.data = [UInt8.ofNat f.idx.toNat]) ∧
    reads [.enqueued (.body [some ⟨1, 7, 0, [1]⟩, some ⟨0, 7, 0, []⟩]), .taken ⟨1, 7, 0, [1]⟩,
        .enqueued (.body [some ⟨1, 7, 0, [1]⟩, some ⟨0, 7, 0, []⟩]), .taken ⟨1, 7, 0, [1]⟩] ++
      (((newReadConn 7 []).insert ⟨1, 7, 0, [1]⟩).deliver ⟨1, 7, 0, [1]⟩).buf =
      stream (fun k => [UInt8.ofNat k])
        (((newReadConn 7 []).insert ⟨1, 7, 0, [1]⟩).deliver ⟨1, 7, 0, [1]⟩).counter := by
  have hD : ∀ f ∈ carried [.enqueued (.body [some ⟨1, 7, 0, [1]⟩, some ⟨0, 7, 0, []⟩]),
      .taken ⟨1, 7, 0, [1]⟩, .enqueued (.body [some ⟨1, 7, 0, [1]⟩, some ⟨0, 7, 0, []⟩]),
      .taken ⟨1, 7, 0, [1]⟩], f.data = [UInt8.ofNat f.idx.toNat] := by decide
  exact ⟨hD, (recv_reads_stream Tunables.default (fun k => [UInt8.ofNat k]) 7 [] reach_duplicate
    hD).1⟩

end Toh.RespLoop

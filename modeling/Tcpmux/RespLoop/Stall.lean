import Tcpmux.RespLoop.Basic

/-!
# The receive path of a client connection: a stopped `readLoopRearrange`

`readLoopRearrange` returns on a frame at or below `counter`, a duplicate of a delivered frame
(`readLoop_stops_at_stale_frame`), and leaves the connection open and without error.  From
then on no interleaving takes a frame or changes `counter`, and the application reads only
what `buf` held (`stopped_stalls`).  The two `respLoop` goroutines go on feeding until
`frames` is full and block in their sends, and `respCh` fills; the next `sendWriteBuf` blocks
in its send on `respCh`, which it makes holding the write lock.  Then, until the read side
closes (`Close`, or a `feedError` from outside), no item reaches `respCh` and no frame is
taken: the orchestrator's ping goroutines block in their sends on `respCh` too, and only
`Read`s of what `buf` held, read timeouts and the ping goroutines' checks can run
(`wedged_silent`).  Both states are reachable from a fresh connection through one duplicated
frame (`stopped_stalls_duplicate`, `wedged_silent_after_duplicate`).
-/

namespace Toh.RespLoop

open ReadConn

/-! ## A stopped `readLoopRearrange` -/

/-- No step reopens the read side. -/
theorem step_conn_closed {t : Tunables} {s s' : Recv} {o : Option Obs} {e : Event}
    (hc : s.conn.closed = true) (h : step t s e = some (s', o)) : s'.conn.closed = true := by
  cases e with
  | post body => obtain ⟨-, rfl, -⟩ := step_post h; exact hc
  | enqueue => obtain ⟨_, -, ⟨-, rfl, -⟩ | ⟨-, -, rfl, -⟩⟩ := step_enqueue h <;> exact hc
  | feedError e => obtain ⟨rfl, -⟩ := step_feedError h; exact feedError_closed _ _
  | dispatch f =>
    obtain ⟨-, -, ⟨-, -, ⟨-, rfl, -⟩ | ⟨-, rfl, -⟩⟩ | ⟨-, rfl, -⟩⟩ := step_dispatch h
    · exact feedError_closed _ _
    all_goals exact hc
  | orchSend f => obtain ⟨-, ⟨-, rfl, -⟩ | ⟨-, -, rfl, -⟩⟩ := step_orchSend h <;> exact hc
  | take i => obtain ⟨_, _, -, -, rfl, -⟩ := step_take h; simpa using hc
  | feed i =>
    obtain ⟨-, ⟨expectedCtr, count, body, -, rfl⟩ | ⟨_, -, rfl⟩ | ⟨_, _, -, ⟨-, rfl⟩ | ⟨-, -, rfl⟩⟩⟩ :=
      step_feed h
    · rcases feedIter_conn s.conn expectedCtr count body with h' | ⟨e, h'⟩ <;> simp [h', hc]
    all_goals simpa using hc
  | timeout i => obtain ⟨-, rfl, -⟩ := step_timeout h; simpa using hc
  | rearrange =>
    obtain ⟨-, ⟨f, rest, c, _, -, hr, rfl, -⟩ | ⟨-, -, rfl, -⟩⟩ := step_rearrange h
    · have hp : (rearrange t s.conn f).state = c := by
        rcases hr with ⟨h', -⟩ | ⟨h', -⟩ <;> rw [h'] <;> rfl
      rcases rearrange_cases t s.conn f with h' | h' | ⟨-, -, ⟨-, h'⟩ | ⟨-, h'⟩⟩ <;>
        rw [h'] at hp <;> subst hp <;> simp [Pass.state, ReadConn.insert, hc]
    · exact hc
  | read n timedOut => obtain ⟨rfl, -⟩ := step_read h; rw [read_eq]; exact hc
  | close => obtain ⟨rfl, -⟩ := step_close h; simp

theorem step_stopped {t : Tunables} {s s' : Recv} {o : Option Obs} {e : Event}
    (hr : s.running = false) (h : step t s e = some (s', o)) :
    taken o.toList = [] ∧ s'.running = false ∧ s'.conn.counter = s.conn.counter ∧
      reads o.toList ++ s'.conn.buf = s.conn.buf := by
  cases e with
  | post body => obtain ⟨-, rfl, rfl⟩ := step_post h; exact ⟨rfl, hr, rfl, rfl⟩
  | enqueue =>
    obtain ⟨_, -, ⟨-, rfl, rfl⟩ | ⟨-, -, rfl, rfl⟩⟩ := step_enqueue h <;> exact ⟨rfl, hr, rfl, rfl⟩
  | feedError e =>
    obtain ⟨rfl, rfl⟩ := step_feedError h
    exact ⟨rfl, hr, by simp [ReadConn.feedError], by simp [ReadConn.feedError]⟩
  | dispatch f =>
    obtain ⟨-, -, ⟨-, -, ⟨-, rfl, rfl⟩ | ⟨-, rfl, rfl⟩⟩ | ⟨-, rfl, rfl⟩⟩ := step_dispatch h
    · exact ⟨rfl, hr, by simp [ReadConn.feedError], by simp [ReadConn.feedError]⟩
    all_goals exact ⟨rfl, hr, rfl, rfl⟩
  | orchSend f =>
    obtain ⟨-, ⟨-, rfl, rfl⟩ | ⟨-, -, rfl, rfl⟩⟩ := step_orchSend h <;> exact ⟨rfl, hr, rfl, rfl⟩
  | take i => obtain ⟨_, _, -, -, rfl, rfl⟩ := step_take h; simpa using hr
  | feed i =>
    obtain ⟨rfl, ⟨expectedCtr, count, body, -, rfl⟩ | ⟨_, -, rfl⟩ | ⟨_, _, -, ⟨-, rfl⟩ | ⟨-, -, rfl⟩⟩⟩ :=
      step_feed h
    · rcases feedIter_conn s.conn expectedCtr count body with hc | ⟨e, hc⟩ <;>
        simp [hc, hr, ReadConn.feedError]
    all_goals simpa using hr
  | timeout i => obtain ⟨-, rfl, rfl⟩ := step_timeout h; simpa using hr
  | rearrange => obtain ⟨hr', -⟩ := step_rearrange h; simp [hr] at hr'
  | read n timedOut =>
    obtain ⟨rfl, rfl⟩ := step_read h
    have hb := read_buf s.conn n timedOut
    rw [read_eq] at hb ⊢
    exact ⟨rfl, hr, rfl, by simpa using hb⟩
  | close => obtain ⟨rfl, rfl⟩ := step_close h; simpa using hr

/-- **A returned `readLoopRearrange` stalls the stream for good.**  From any state in which
`readLoopRearrange` has returned, no interleaving of the other goroutines, `Read`, `Close`
and the faults from outside takes another frame from `frames`, restarts the goroutine or
changes `counter`, and the application reads only bytes `buf` already held. -/
theorem stopped_stalls (t : Tunables) {s : Recv} (hs : s.running = false) {s' : Recv}
    {L : List Obs} (h : Reachable (step t) s s' L) :
    taken L = [] ∧ s'.running = false ∧ s'.conn.counter = s.conn.counter ∧
      reads L ++ s'.conn.buf = s.conn.buf := by
  induction h with
  | init => exact ⟨rfl, hs, rfl, rfl⟩
  | step e _ he ih =>
    obtain ⟨hL, hr, hc, hb⟩ := ih
    obtain ⟨hL', hr', hc', hb'⟩ := step_stopped hr he
    exact ⟨by simp [hL, hL'], hr', hc'.trans hc, by rw [reads_append, List.append_assoc, hb', hb]⟩

/-- A one-frame body delivered, then delivered again: `readLoopRearrange` takes the duplicate
and returns, with the connection open and without error. -/
theorem reach_duplicate :
    Reachable (step Tunables.default) (Recv.init 7 [])
      ⟨((newReadConn 7 []).insert ⟨1, 7, 0, [1]⟩).deliver ⟨1, 7, 0, [1]⟩, false, none, [], false,
        [], .idle, .idle, []⟩
      [.enqueued (.body [some ⟨1, 7, 0, [1]⟩, some ⟨0, 7, 0, []⟩]), .taken ⟨1, 7, 0, [1]⟩,
        .enqueued (.body [some ⟨1, 7, 0, [1]⟩, some ⟨0, 7, 0, []⟩]), .taken ⟨1, 7, 0, [1]⟩] := by
  have h3 : Reachable (step Tunables.default) (Recv.init 7 [])
      ⟨newReadConn 7 [], true, none, [], false, [⟨1, 7, 0, [1]⟩],
        .feeding 0 1 [some ⟨0, 7, 0, []⟩], .idle, []⟩
      [.enqueued (.body [some ⟨1, 7, 0, [1]⟩, some ⟨0, 7, 0, []⟩])] :=
    Reachable.init.runSteps [.post [some ⟨1, 7, 0, [1]⟩, some ⟨0, 7, 0, []⟩], .enqueue,
      .take false, .feed false, .feed false] rfl
  have r1 := rearrange_in_order Tunables.default (c := newReadConn 7 []) (f := ⟨1, 7, 0, [1]⟩)
    (by decide) (by decide) (fun _ => rfl) (by decide)
  have h4 := h3.step .rearrange (by simp only [step, r1]; rfl)
  have h7 : Reachable (step Tunables.default) (Recv.init 7 [])
      ⟨((newReadConn 7 []).insert ⟨1, 7, 0, [1]⟩).deliver ⟨1, 7, 0, [1]⟩, true, none, [], false,
        [⟨1, 7, 0, [1]⟩], .feeding 0 1 [some ⟨0, 7, 0, []⟩], .idle, []⟩
      [.enqueued (.body [some ⟨1, 7, 0, [1]⟩, some ⟨0, 7, 0, []⟩]), .taken ⟨1, 7, 0, [1]⟩,
        .enqueued (.body [some ⟨1, 7, 0, [1]⟩, some ⟨0, 7, 0, []⟩])] :=
    h4.runSteps [.feed false, .post [some ⟨1, 7, 0, [1]⟩, some ⟨0, 7, 0, []⟩], .enqueue,
      .take false, .feed false, .feed false] rfl
  have r2 : rearrange Tunables.default
      (((newReadConn 7 []).insert ⟨1, 7, 0, [1]⟩).deliver ⟨1, 7, 0, [1]⟩) ⟨1, 7, 0, [1]⟩ =
      .exit (((newReadConn 7 []).insert ⟨1, 7, 0, [1]⟩).deliver ⟨1, 7, 0, [1]⟩) := by
    unfold rearrange
    rw [if_neg (by decide), if_pos (by decide)]
  have h8 := h7.step .rearrange (by simp only [step, r2]; rfl)
  exact h8.runSteps [.feed false] rfl

/-- After the duplicate, the next frame in order reaches `frames` and stays there, and the
application reads the one byte `buf` held. -/
theorem stopped_stalls_duplicate :
    Reachable (step Tunables.default) (Recv.init 7 [])
      ⟨((newReadConn 7 []).insert ⟨1, 7, 0, [1]⟩).deliver ⟨1, 7, 0, [1]⟩, false, none, [], false,
        [], .idle, .idle, []⟩
      [.enqueued (.body [some ⟨1, 7, 0, [1]⟩, some ⟨0, 7, 0, []⟩]), .taken ⟨1, 7, 0, [1]⟩,
        .enqueued (.body [some ⟨1, 7, 0, [1]⟩, some ⟨0, 7, 0, []⟩]), .taken ⟨1, 7, 0, [1]⟩] ∧
    (((newReadConn 7 []).insert ⟨1, 7, 0, [1]⟩).deliver ⟨1, 7, 0, [1]⟩).closed = false ∧
    (((newReadConn 7 []).insert ⟨1, 7, 0, [1]⟩).deliver ⟨1, 7, 0, [1]⟩).err = none ∧
    Reachable (step Tunables.default)
      ⟨((newReadConn 7 []).insert ⟨1, 7, 0, [1]⟩).deliver ⟨1, 7, 0, [1]⟩, false, none, [], false,
        [], .idle, .idle, []⟩
      ⟨{ ((newReadConn 7 []).insert ⟨1, 7, 0, [1]⟩).deliver ⟨1, 7, 0, [1]⟩ with buf := [] }, false,
        none, [], false, [⟨2, 7, 0, [2]⟩], .feeding 0 1 [some ⟨0, 7, 0, []⟩], .idle, []⟩
      [.enqueued (.body [some ⟨2, 7, 0, [2]⟩, some ⟨0, 7, 0, []⟩]), .read [1]] ∧
    (taken [.enqueued (.body [some ⟨2, 7, 0, [2]⟩, some ⟨0, 7, 0, []⟩]), .read [1]] = [] ∧
      false = false ∧
      ({ ((newReadConn 7 []).insert ⟨1, 7, 0, [1]⟩).deliver ⟨1, 7, 0, [1]⟩ with
        buf := [] } : ReadConn).counter =
        (((newReadConn 7 []).insert ⟨1, 7, 0, [1]⟩).deliver ⟨1, 7, 0, [1]⟩).counter ∧
      reads [.enqueued (.body [some ⟨2, 7, 0, [2]⟩, some ⟨0, 7, 0, []⟩]), .read [1]] ++ [] =
        (((newReadConn 7 []).insert ⟨1, 7, 0, [1]⟩).deliver ⟨1, 7, 0, [1]⟩).buf) := by
  have h : Reachable (step Tunables.default)
      ⟨((newReadConn 7 []).insert ⟨1, 7, 0, [1]⟩).deliver ⟨1, 7, 0, [1]⟩, false, none, [], false,
        [], .idle, .idle, []⟩
      ⟨{ ((newReadConn 7 []).insert ⟨1, 7, 0, [1]⟩).deliver ⟨1, 7, 0, [1]⟩ with buf := [] }, false,
        none, [], false, [⟨2, 7, 0, [2]⟩], .feeding 0 1 [some ⟨0, 7, 0, []⟩], .idle, []⟩
      [.enqueued (.body [some ⟨2, 7, 0, [2]⟩, some ⟨0, 7, 0, []⟩]), .read [1]] :=
    Reachable.init.runSteps [.post [some ⟨2, 7, 0, [2]⟩, some ⟨0, 7, 0, []⟩], .enqueue,
      .take false, .feed false, .feed false, .read 5 false] rfl
  exact ⟨reach_duplicate, rfl, rfl, h, stopped_stalls Tunables.default rfl h⟩

/-! ## A wedged receive path -/

/-- The receive path wedged: `readLoopRearrange` has returned, a `sendWriteBuf` waits to send
on `respCh` holding the write lock, `respCh` is open and full, and both goroutines wait to
send on a full `frames`. -/
structure Wedged (s : Recv) : Prop where
  stopped : s.running = false
  locked : s.pending.isSome = true
  respChOpen : s.respChClosed = false
  respChFull : respChCap ≤ s.respCh.length
  framesFull : framesCap ≤ s.frames.length
  sending : ∀ i, ∃ expectedCtr count f body, s.drainer i = .sending expectedCtr count f body

/-- A step from a wedged receive path that leaves the read side open keeps it wedged, puts
no body on `respCh`, takes no frame, and reads only from `buf`. -/
theorem Wedged.step {t : Tunables} {s s' : Recv} {o : Option Obs} {e : Event} (hw : Wedged s)
    (h : step t s e = some (s', o)) (hc : s'.conn.closed = false) :
    Wedged s' ∧ enqueued o.toList = [] ∧ taken o.toList = [] ∧
      reads o.toList ++ s'.conn.buf = s.conn.buf := by
  cases e with
  | post body =>
    obtain ⟨hp, -⟩ := step_post h
    exact absurd hw.locked (by simp [hp])
  | enqueue =>
    obtain ⟨_, -, ⟨hrc, -⟩ | ⟨-, hlt, -⟩⟩ := step_enqueue h
    · simp [hw.respChOpen] at hrc
    · exact absurd hw.respChFull (by omega)
  | feedError e => obtain ⟨rfl, -⟩ := step_feedError h; simp at hc
  | dispatch f =>
    obtain ⟨-, -, ⟨-, -, ⟨-, rfl, -⟩ | ⟨-, rfl, rfl⟩⟩ | ⟨-, rfl, rfl⟩⟩ := step_dispatch h
    · simp at hc
    all_goals exact ⟨⟨hw.stopped, hw.locked, hw.respChOpen, hw.respChFull, hw.framesFull,
      hw.sending⟩, rfl, rfl, rfl⟩
  | orchSend f =>
    obtain ⟨-, ⟨hrc, -⟩ | ⟨-, hlt, -⟩⟩ := step_orchSend h
    · simp [hw.respChOpen] at hrc
    · exact absurd hw.respChFull (by omega)
  | take i =>
    obtain ⟨_, _, hd, -⟩ := step_take h
    obtain ⟨_, _, _, _, hd'⟩ := hw.sending i
    rw [hd] at hd'
    cases hd'
  | feed i =>
    obtain ⟨_, _, _, _, hd'⟩ := hw.sending i
    obtain ⟨-, ⟨_, _, _, hd, -⟩ | ⟨_, hd, -⟩ | ⟨_, _, -, ⟨hcl, rfl⟩ | ⟨-, hlt, -⟩⟩⟩ := step_feed h
    · rw [hd] at hd'; cases hd'
    · rw [hd] at hd'; cases hd'
    · simp [hcl] at hc
    · exact absurd hw.framesFull (by omega)
  | timeout i =>
    obtain ⟨-, rfl, rfl⟩ := step_timeout h
    refine ⟨⟨by simpa using hw.stopped, by simpa using hw.locked, by simpa using hw.respChOpen,
      by simpa using hw.respChFull, by simpa using hw.framesFull, fun j => ?_⟩, rfl, rfl,
      by simp⟩
    rw [Recv.drainer_setDrainer]
    split
    · obtain ⟨_, _, _, _, hd⟩ := hw.sending i
      exact ⟨_, _, _, _, by rw [hd]; rfl⟩
    · exact hw.sending j
  | rearrange => obtain ⟨hr, -⟩ := step_rearrange h; simp [hw.stopped] at hr
  | read n timedOut =>
    obtain ⟨rfl, rfl⟩ := step_read h
    have hb := read_buf s.conn n timedOut
    exact ⟨⟨hw.stopped, hw.locked, hw.respChOpen, hw.respChFull, hw.framesFull, hw.sending⟩,
      rfl, rfl, by simpa using hb⟩
  | close => obtain ⟨rfl, -⟩ := step_close h; simp at hc

/-- **A wedged receive path stays silent until its read side closes.**  From a wedged state,
in every interleaving that leaves the read side open, the state stays wedged, no item reaches
`respCh`, no frame is taken, and the application reads only bytes `buf` already held; every
`sendWriteBuf` blocks on the write lock or in its send, and every ping goroutine in its send. -/
theorem wedged_silent (t : Tunables) {s : Recv} (hw : Wedged s) {s' : Recv} {L : List Obs}
    (h : Reachable (step t) s s' L) :
    s'.conn.closed = false →
      Wedged s' ∧ enqueued L = [] ∧ taken L = [] ∧ reads L ++ s'.conn.buf = s.conn.buf := by
  induction h with
  | init => exact fun _ => ⟨hw, rfl, rfl, rfl⟩
  | @step s₁ s₂ L₁ o₁ e _ he ih =>
    intro hc
    have hc₀ : s₁.conn.closed = false :=
      Bool.eq_false_iff.2 fun h' => by simp [step_conn_closed h' he] at hc
    obtain ⟨hw', hq, hL, hb⟩ := ih hc₀
    obtain ⟨hw'', hq', hL', hb'⟩ := hw'.step he hc
    exact ⟨hw'', by simp [hq, hq'], by simp [hL, hL'],
      by rw [reads_append, List.append_assoc, hb', hb]⟩

/-- After the duplicate, a body of 1023 frames fills `frames` but one slot; a second body
fills it and blocks its goroutine on its next frame, a third blocks the other goroutine,
sixteen more fill `respCh`, and the next `sendWriteBuf` blocks in its send.  The connection
is open and without error. -/
theorem wedged_silent_after_duplicate :
    ∃ W, (∃ L, Reachable (step Tunables.default) (Recv.init 7 []) W L) ∧ Wedged W ∧
      W.conn.closed = false ∧ W.conn.err = none ∧
      ∀ s' L, Reachable (step Tunables.default) W s' L → s'.conn.closed = false →
        enqueued L = [] ∧ taken L = [] := by
  have hg : isSyncCtr ⟨2, 7, 0, []⟩ = false := by decide
  have hs : ∀ n, syncedFrom 0 (List.replicate n (⟨2, 7, 0, []⟩ : Frame)) = true := fun n => by
    induction n with
    | zero => rfl
    | succ n ih => simpa [List.replicate_succ, syncedFrom, hg] using ih
  have hlen : ∀ m n : Nat, m + ((List.replicate n (⟨2, 7, 0, []⟩ : Frame)).map some ++
      [some (⟨0, 7, 0, []⟩ : Frame)]).length = m + n + 1 := fun m n => by
    simp only [List.length_append, List.length_map, List.length_replicate, List.length_singleton]
    omega
  have h1 : Reachable (step Tunables.default) (Recv.init 7 [])
      ⟨((newReadConn 7 []).insert ⟨1, 7, 0, [1]⟩).deliver ⟨1, 7, 0, [1]⟩, false, none, [], false,
        [], .feeding 0 0 ((List.replicate 1023 ⟨2, 7, 0, []⟩).map some ++ [some ⟨0, 7, 0, []⟩]),
        .idle, []⟩ _ :=
    reach_duplicate.runSteps [.post ((List.replicate 1023 (⟨2, 7, 0, []⟩ : Frame)).map some ++
      [some (⟨0, 7, 0, []⟩ : Frame)]), .enqueue, .take false] rfl
  obtain ⟨k, hk⟩ := feed_alone Tunables.default false _
    ⟨((newReadConn 7 []).insert ⟨1, 7, 0, [1]⟩).deliver ⟨1, 7, 0, [1]⟩, false, none, [], false,
      [], .feeding 0 0 ((List.replicate 1023 ⟨2, 7, 0, []⟩).map some ++ [some ⟨0, 7, 0, []⟩]),
      .idle, []⟩ 0 0 rfl (by rw [hlen]; decide)
  rw [feedLoop_envelope rfl rfl (show (⟨0, 7, 0, []⟩ : Frame).idx = 0 from rfl) [] _ 0 0 []
    (fun f hf => by rw [List.eq_of_mem_replicate hf]; decide) (hs 1023)] at hk
  simp only [forwarded, hg, Bool.not_false, List.filter_replicate_of_pos, List.nil_append] at hk
  have h2 : Reachable (step Tunables.default) (Recv.init 7 [])
      ⟨((newReadConn 7 []).insert ⟨1, 7, 0, [1]⟩).deliver ⟨1, 7, 0, [1]⟩, false, none, [], false,
        List.replicate 1023 ⟨2, 7, 0, []⟩, .idle, .idle, []⟩ _ :=
    h1.runSteps _ hk
  have h3 : Reachable (step Tunables.default) (Recv.init 7 [])
      ⟨((newReadConn 7 []).insert ⟨1, 7, 0, [1]⟩).deliver ⟨1, 7, 0, [1]⟩, false, none, [], false,
        List.replicate 1023 ⟨2, 7, 0, []⟩, .idle,
        .sending 0 0 ⟨2, 7, 0, []⟩ [some ⟨2, 7, 0, []⟩, some ⟨0, 7, 0, []⟩], []⟩ _ :=
    h2.runSteps [.post [some ⟨2, 7, 0, []⟩, some ⟨2, 7, 0, []⟩, some ⟨0, 7, 0, []⟩], .enqueue,
      .take true, .feed true] rfl
  have hd3 : Recv.drainer ⟨((newReadConn 7 []).insert ⟨1, 7, 0, [1]⟩).deliver ⟨1, 7, 0, [1]⟩,
      false, none, [], false, List.replicate 1023 ⟨2, 7, 0, []⟩, .idle,
      .sending 0 0 ⟨2, 7, 0, []⟩ [some ⟨2, 7, 0, []⟩, some ⟨0, 7, 0, []⟩], []⟩ true =
      .sending 0 0 ⟨2, 7, 0, []⟩ [some ⟨2, 7, 0, []⟩, some ⟨0, 7, 0, []⟩] := rfl
  have h4 : Reachable (step Tunables.default) (Recv.init 7 [])
      ⟨((newReadConn 7 []).insert ⟨1, 7, 0, [1]⟩).deliver ⟨1, 7, 0, [1]⟩, false, none, [], false,
        List.replicate 1023 ⟨2, 7, 0, []⟩ ++ [⟨2, 7, 0, []⟩], .idle,
        .feeding 0 0 [some ⟨2, 7, 0, []⟩, some ⟨0, 7, 0, []⟩], []⟩ _ :=
    h3.step (.feed true) (step_send_eq (t := Tunables.default) hd3 rfl
      (by rw [List.length_replicate]; decide))
  have hW : Wedged ⟨((newReadConn 7 []).insert ⟨1, 7, 0, [1]⟩).deliver ⟨1, 7, 0, [1]⟩, false,
      some [some ⟨0, 7, 0, []⟩], List.replicate 16 (.body [some ⟨0, 7, 0, []⟩]), false,
      List.replicate 1023 ⟨2, 7, 0, []⟩ ++ [⟨2, 7, 0, []⟩],
      .sending 0 0 ⟨2, 7, 0, []⟩ [some ⟨0, 7, 0, []⟩],
      .sending 0 0 ⟨2, 7, 0, []⟩ [some ⟨0, 7, 0, []⟩], []⟩ :=
    ⟨rfl, rfl, rfl, by rw [List.length_replicate]; decide,
      by rw [List.length_append, List.length_replicate, List.length_singleton]; decide,
      fun i => by cases i <;> exact ⟨_, _, _, _, rfl⟩⟩
  exact ⟨_, ⟨_, h4.runSteps (.feed true :: .post [some ⟨2, 7, 0, []⟩, some ⟨0, 7, 0, []⟩] ::
    .enqueue :: .take false :: .feed false ::
    (List.replicate 16 [Event.post [some ⟨0, 7, 0, []⟩], .enqueue]).flatten ++
    [Event.post [some ⟨0, 7, 0, []⟩]]) rfl⟩, hW, rfl, rfl,
    fun _ _ h hc => ⟨(wedged_silent Tunables.default hW h hc).2.1,
      (wedged_silent Tunables.default hW h hc).2.2.1⟩⟩

end Toh.RespLoop

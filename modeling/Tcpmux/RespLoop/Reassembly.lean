import Tcpmux.RespLoop.Basic

/-!
# The receive path of a client connection: what reaches the read side

* Whatever the bodies, the ping responses, the faults and the interleaving, the frames
  `readLoopRearrange` took, with those still on `frames`, are among the frames the items that
  reached `respCh` carried (the frames of the bodies before their terminators, and the frames
  the orchestrator delivered), checkpoints left out, each at most as often
  (`taken_subperm_carried`).  The accounting is `Flow`: the frames taken plus those on their
  way (`Recv.inFlight`) never exceed what was carried.
* While the bodies are envelopes, the frames the items carried belong to one stream with
  distinct indices and fit in `MaxWriteBufferSize` together, and no fault comes from
  outside, no interleaving makes the read side fail or `readLoopRearrange` stop while the
  read side is open, the bytes the application read followed by `buf` are the stream up to
  `counter`, and once everything sent has been taken on an open connection, `counter` ends
  the longest run `1, …, k` of indices carried (`recv_reassembles`):
  `readLoop_reassembles_distinct`, from one ordered channel to the goroutines that fill it.
  The invariant is `Good`, kept by one lemma per kind of step.

`Read` only takes bytes from the front of `buf`; the read side with them put back
(`ReadConn.unread`) is the one a run without `Read` reaches, so the read-side invariants of
`Tcpmux.ReadConn` are stated of it.
-/

namespace Toh.ReadConn

/-- The read side with the bytes `out` that the application read put back in front of
`buf`. -/
def unread (c : ReadConn) (out : List UInt8) : ReadConn := { c with buf := out ++ c.buf }

@[simp] theorem unread_counter (c : ReadConn) (out : List UInt8) :
    (c.unread out).counter = c.counter := rfl

@[simp] theorem unread_buf (c : ReadConn) (out : List UInt8) :
    (c.unread out).buf = out ++ c.buf := rfl

@[simp] theorem unread_futureframes (c : ReadConn) (out : List UInt8) :
    (c.unread out).futureframes = c.futureframes := rfl

@[simp] theorem unread_futureSize (c : ReadConn) (out : List UInt8) :
    (c.unread out).futureSize = c.futureSize := rfl

@[simp] theorem unread_err (c : ReadConn) (out : List UInt8) : (c.unread out).err = c.err := rfl

@[simp] theorem unread_closed (c : ReadConn) (out : List UInt8) :
    (c.unread out).closed = c.closed := rfl

@[simp] theorem unread_idx (c : ReadConn) (out : List UInt8) : (c.unread out).idx = c.idx := rfl

theorem close_unread (c : ReadConn) (out : List UInt8) : (c.unread out).close = c.close.unread out := by
  simp [unread]

theorem feedError_unread (c : ReadConn) (out : List UInt8) (e : Err) :
    (c.unread out).feedError e = (c.feedError e).unread out := by
  simp [unread, feedError]

theorem drain_unread (c : ReadConn) (out : List UInt8) : (c.unread out).drain = c.drain.unread out := by
  induction c using drain.induct with
  | case1 c g hg ih =>
    rw [drain_of_lookup_some hg, drain_of_lookup_some (by simpa using hg), ← ih]
    simp [unread, deliver]
  | case2 c hn => rw [drain_of_lookup_none hn, drain_of_lookup_none (by simpa using hn)]

/-- `readLoopRearrange` decides as it would had nobody read. -/
theorem rearrange_unread (t : Tunables) (c : ReadConn) (out : List UInt8) (f : Frame) :
    rearrange t (c.unread out) f = match rearrange t c f with
      | .next c' => .next (c'.unread out)
      | .exit c' => .exit (c'.unread out) := by
  have hi : (c.unread out).insert f = (c.insert f).unread out := rfl
  unfold rearrange
  simp only [unread_idx, unread_counter, hi, drain_unread, unread_futureSize]
  split_ifs <;> simp only [feedError_unread]

/-- A `Read` moves bytes from `buf` to what the application read. -/
theorem read_unread (c : ReadConn) (out : List UInt8) (n : Nat) (timedOut : Bool) :
    (c.read n timedOut).2.unread (out ++ (c.read n timedOut).1.bytes) = c.unread out := by
  have hb := read_buf c n timedOut
  rw [read_eq] at hb ⊢
  simp [unread, List.append_assoc, hb]

end Toh.ReadConn

namespace Toh.RespLoop

open ReadConn

/-! ## Frames on their way -/

/-- Frames on their way: on `frames`, left in what the goroutines are draining, and in the
items on `respCh`. -/
def Recv.inFlight (s : Recv) : Multiset Frame :=
  ↑s.frames + ↑s.first.rest + ↑s.second.rest + ↑(s.respCh.flatMap RespNode.frames)

theorem Recv.inFlight_setDrainer (s : Recv) (i : Bool) (d : Drainer) :
    (s.setDrainer i d).inFlight + ↑(s.drainer i).rest = s.inFlight + ↑d.rest := by
  cases i <;> simp only [Recv.setDrainer, Recv.drainer, Recv.inFlight] <;> abel

/-- An item put on `respCh`, by `sendWriteBuf` or a ping goroutine. -/
theorem Recv.inFlight_push (s : Recv) (n : RespNode) (p : Option (List (Option Frame)))
    (q : List Frame) :
    ({ s with pending := p, respCh := s.respCh ++ [n], orch := q } : Recv).inFlight =
      s.inFlight + ↑n.frames := by
  simp [Recv.inFlight, add_assoc]

theorem Recv.inFlight_take {s : Recv} {i : Bool} {n : RespNode} {rest : List RespNode}
    (hd : s.drainer i = .idle) (hr : s.respCh = n :: rest) :
    (({ s with respCh := rest }).setDrainer i n.start).inFlight = s.inFlight := by
  have h := Recv.inFlight_setDrainer { s with respCh := rest } i n.start
  have hd' : ({ s with respCh := rest } : Recv).drainer i = .idle := by cases i <;> exact hd
  rw [hd', RespNode.start_rest] at h
  simp only [Drainer.rest, Multiset.coe_nil, add_zero] at h
  rw [h]
  simp only [Recv.inFlight, hr, List.flatMap_cons, ← Multiset.coe_add]
  abel

theorem Recv.inFlight_parse {s : Recv} {i : Bool} {expectedCtr count : Nat}
    {body : List (Option Frame)} (hd : s.drainer i = .feeding expectedCtr count body)
    (c : ReadConn) (d : Drainer) :
    (({ s with conn := c }).setDrainer i d).inFlight + ↑(bodyFrames body) = s.inFlight + ↑d.rest := by
  have h := Recv.inFlight_setDrainer { s with conn := c } i d
  have hd' : ({ s with conn := c } : Recv).drainer i = s.drainer i := by cases i <;> rfl
  rwa [hd', hd] at h

/-- A send moves its frame from the goroutine to `frames`. -/
theorem Recv.inFlight_send {s : Recv} {i : Bool} {f : Frame} {next : Drainer}
    (hd : (s.drainer i).outgoing = some (f, next)) :
    (({ s with frames := s.frames ++ [f] }).setDrainer i next).inFlight = s.inFlight := by
  have h := Recv.inFlight_setDrainer { s with frames := s.frames ++ [f] } i next
  have hd' : ({ s with frames := s.frames ++ [f] } : Recv).drainer i = s.drainer i := by
    cases i <;> rfl
  have hf : ({ s with frames := s.frames ++ [f] } : Recv).inFlight = s.inFlight + ↑[f] := by
    simp only [Recv.inFlight, ← Multiset.coe_add]
    abel
  have hrest : (↑(s.drainer i).rest : Multiset Frame) = ↑[f] + ↑next.rest := by
    rw [Drainer.outgoing_rest hd, Multiset.coe_add]; rfl
  rw [hd', hf, hrest, ← add_assoc] at h
  exact add_right_cancel (add_right_cancel h)

theorem Recv.inFlight_rearrange {s : Recv} {f : Frame} {rest : List Frame}
    (hr : s.frames = f :: rest) (c : ReadConn) (running : Bool) :
    ↑[f] + ({ s with conn := c, frames := rest, running := running }).inFlight = s.inFlight := by
  simp only [Recv.inFlight, hr]
  rw [show f :: rest = [f] ++ rest from rfl, ← Multiset.coe_add]
  abel

theorem Drainer.closeBody_rest (d : Drainer) : List.Sublist d.closeBody.rest d.rest := by
  cases d with
  | feeding => exact List.nil_sublist _
  | sending => exact .cons₂ _ (List.nil_sublist _)
  | _ => exact List.Sublist.refl _

/-- The check on a frame taken from `respCh` leaves at most the frame to send. -/
theorem single_rest_sublist (f : Frame) (p : Prop) [Decidable p] :
    List.Sublist (if p then feedframe f else .idle).rest (forwarded [f]) := by
  split
  · rw [feedframe_rest]
  · exact List.nil_sublist _

/-- A goroutine's statement, or its read timeout, only takes frames off their way or moves
them on. -/
theorem inFlight_drainer_le {t : Tunables} {s s' : Recv} {o : Option Obs} {i : Bool}
    (h : step t s (.feed i) = some (s', o) ∨ step t s (.timeout i) = some (s', o)) :
    s'.inFlight ≤ s.inFlight := by
  rcases h with h | h
  · obtain ⟨-, ⟨expectedCtr, count, body, hd, rfl⟩ | ⟨f, hd, rfl⟩ | ⟨f, next, hd,
      ⟨-, rfl⟩ | ⟨-, -, rfl⟩⟩⟩ := step_feed h
    · refine le_of_add_le_add_right (a := ↑(bodyFrames body)) ?_
      rw [Recv.inFlight_parse hd]
      exact add_le_add_left (Multiset.coe_le.2 (feedIter_sublist _ _ _ _).subperm) _
    · refine le_of_add_le_add_right (a := ↑(s.drainer i).rest) ?_
      rw [Recv.inFlight_setDrainer, hd]
      exact add_le_add_left (Multiset.coe_le.2 (single_rest_sublist f _).subperm) _
    · have := Recv.inFlight_setDrainer s i .idle
      simp only [Drainer.rest, Multiset.coe_nil, add_zero] at this
      rw [← this]
      exact le_add_right le_rfl
    · exact le_of_eq (Recv.inFlight_send hd)
  · obtain ⟨-, rfl, -⟩ := step_timeout h
    refine le_of_add_le_add_right (a := ↑(s.drainer i).rest) ?_
    rw [Recv.inFlight_setDrainer]
    exact add_le_add_left (Multiset.coe_le.2 (Drainer.closeBody_rest _).subperm) _

/-! ## Nothing invented -/

/-- The frames the items that reached `respCh` may forward. -/
def carried (L : List Obs) : List Frame := (enqueued L).flatMap RespNode.frames

@[simp] theorem carried_nil : carried [] = [] := rfl

@[simp] theorem carried_append (L L' : List Obs) : carried (L ++ L') = carried L ++ carried L' := by
  simp only [carried, enqueued_append, List.flatMap_append]

@[simp] theorem carried_cons (o : Obs) (L : List Obs) :
    carried (o :: L) = o.enqueuedNode.toList.flatMap RespNode.frames ++ carried L := by
  simp only [carried, enqueued_cons, List.flatMap_append]

/-- Frames taken or on their way are frames the items on `respCh` forward, each as often. -/
def Flow (L : List Obs) (s : Recv) : Prop :=
  ↑(taken L) + s.inFlight ≤ (↑(carried L) : Multiset Frame)

/-- An item put on `respCh` joins what was carried and what is on its way alike. -/
theorem Flow.push {L : List Obs} {s : Recv} (h : Flow L s) (n : RespNode)
    (p : Option (List (Option Frame))) (q : List Frame) :
    Flow (L ++ [.enqueued n]) { s with pending := p, respCh := s.respCh ++ [n], orch := q } := by
  unfold Flow at *
  simpa [Recv.inFlight_push, ← add_assoc] using add_le_add_right h ↑n.frames

theorem Flow.step {t : Tunables} {L : List Obs} {s s' : Recv} {o : Option Obs} (h : Flow L s)
    {e : Event} (hs : RespLoop.step t s e = some (s', o)) : Flow (L ++ o.toList) s' := by
  cases e with
  | post body =>
    obtain ⟨-, rfl, rfl⟩ := step_post hs
    simpa [Flow, Recv.inFlight] using h
  | enqueue =>
    obtain ⟨body, -, ⟨-, rfl, rfl⟩ | ⟨-, -, rfl, rfl⟩⟩ := step_enqueue hs
    · simpa [Flow, Recv.inFlight] using h
    · exact h.push _ none s.orch
  | feedError e =>
    obtain ⟨rfl, rfl⟩ := step_feedError hs
    simpa [Flow, Recv.inFlight] using h
  | dispatch f =>
    obtain ⟨-, -, ⟨-, -, ⟨-, rfl, rfl⟩ | ⟨-, rfl, rfl⟩⟩ | ⟨-, rfl, rfl⟩⟩ := step_dispatch hs <;>
      simpa [Flow, Recv.inFlight] using h
  | orchSend f =>
    obtain ⟨-, ⟨-, rfl, rfl⟩ | ⟨-, -, rfl, rfl⟩⟩ := step_orchSend hs
    · simpa [Flow, Recv.inFlight] using h
    · exact h.push _ s.pending _
  | take i =>
    obtain ⟨n, rest, hd, hr, rfl, rfl⟩ := step_take hs
    simpa [Flow, Recv.inFlight_take hd hr] using h
  | feed i =>
    obtain ⟨rfl, -⟩ := step_feed hs
    simpa [Flow] using le_trans (add_le_add_left (inFlight_drainer_le (.inl hs)) _) h
  | timeout i =>
    obtain ⟨-, -, rfl⟩ := step_timeout hs
    simpa [Flow] using le_trans (add_le_add_left (inFlight_drainer_le (.inr hs)) _) h
  | rearrange =>
    obtain ⟨-, ⟨f, rest, c, running, hr, -, rfl, rfl⟩ | ⟨-, -, rfl, rfl⟩⟩ := step_rearrange hs
    · unfold Flow at h
      rw [← Recv.inFlight_rearrange hr c running, ← add_assoc, Multiset.coe_add] at h
      simpa [Flow] using h
    · simpa [Flow, Recv.inFlight] using h
  | read n timedOut =>
    obtain ⟨rfl, rfl⟩ := step_read hs
    simpa [Flow, Recv.inFlight] using h
  | close =>
    obtain ⟨rfl, rfl⟩ := step_close hs
    simpa [Flow, Recv.inFlight] using h

/-- Every reachable state keeps the accounting. -/
theorem flow_of_reach {t : Tunables} {idx : UInt32} {blk : List UInt8} {s : Recv} {L : List Obs}
    (h : Reachable (step t) (Recv.init idx blk) s L) : Flow L s :=
  h.inv (P := fun s L => Flow L s) (le_of_eq rfl) fun _ _ _ _ _ h hs => h.step hs

theorem dataLength_le_of_le {T P : List Frame} (h : (↑T : Multiset Frame) ≤ ↑P) :
    dataLength T ≤ dataLength P := by
  have key : ∀ l : List Frame,
      dataLength l = ((l : Multiset Frame).map fun f => f.data.length).sum := fun l => by
    simp [dataLength]
  obtain ⟨u, hu⟩ := exists_add_of_le h
  rw [key, key, hu, Multiset.map_add, Multiset.sum_add]
  exact Nat.le_add_right _ _

section
variable (t : Tunables) (D : Nat → List UInt8) (idx : UInt32)

/-- What the receive path needs of a run: no fault came from outside, each body that reached
`respCh` is an envelope, and the frames the items on `respCh` forward belong to this
connection and to the stream `D`, carry distinct indices and fit in `MaxWriteBufferSize`
together. -/
structure Fits (L : List Obs) : Prop where
  faultless : ∀ o ∈ L, o.fault = false
  envelope : ∀ n ∈ enqueued L, n.Enveloped
  frames : ∀ f ∈ carried L, low32 f.connIdx = idx ∧ 0 < f.idx.toNat ∧ f.data = D f.idx.toNat
  nodup : ((carried L).map fun f => f.idx.toNat).Nodup
  size : dataLength (carried L) ≤ t.maxWriteBufferSize

/-- A read side of this connection with no error, which has taken the frames `T` and
reassembles `D` from them. -/
structure ReadSide (T : List Frame) (c : ReadConn) : Prop where
  err : c.err = none
  idx_eq : c.idx = idx
  consumed : Consumed T c
  tidy : Tidy c
  reassembled : Reassembled D [] c

/-- What the receive path keeps while the run fits: the flow is exact and
`readLoopRearrange` runs while the read side is open, the read side with what the application
read put back reassembles `D` from the frames taken, and every body queued or being fed is an
envelope. -/
structure Good (L : List Obs) (s : Recv) : Prop where
  flow : Flow L s
  exact : s.conn.closed = false → ↑(taken L) + s.inFlight = (↑(carried L) : Multiset Frame)
  running : s.conn.closed = false → s.running = true
  side : ReadSide D idx (taken L) (s.conn.unread (reads L))
  queued : ∀ n ∈ s.respCh, n.Enveloped
  drainers : ∀ i, (s.drainer i).Enveloped

variable {t D idx}

theorem Fits.of_append {L L' : List Obs} (h : Fits t D idx (L ++ L')) : Fits t D idx L where
  faultless o ho := h.faultless o (List.mem_append_left _ ho)
  envelope n hn := h.envelope n (by simp [hn])
  frames f hf := h.frames f (by simp [hf])
  nodup := (List.nodup_append.1 (by simpa using h.nodup)).1
  size := le_trans (by simp [dataLength_append]) h.size

/-- A step of a run that fits shows no fault. -/
theorem Fits.not_fault {L : List Obs} {o : Obs} (h : Fits t D idx (L ++ [o])) : o.fault = false :=
  h.faultless o (by simp)

/-- Frames taken from those carried inherit what `Fits` says of them. -/
theorem Fits.of_le {L : List Obs} (h : Fits t D idx L) {T : List Frame}
    (hT : (↑T : Multiset Frame) ≤ ↑(carried L)) :
    (∀ f ∈ T, low32 f.connIdx = idx ∧ 0 < f.idx.toNat ∧ f.data = D f.idx.toNat) ∧
      (T.map fun f => f.idx.toNat).Nodup ∧ dataLength T ≤ t.maxWriteBufferSize := by
  refine ⟨fun f hf => h.frames f ((Multiset.coe_le.1 hT).subset hf), ?_,
    le_trans (dataLength_le_of_le hT) h.size⟩
  have := Multiset.nodup_of_le (Multiset.map_le_map (f := fun f : Frame => f.idx.toNat) hT)
    (Multiset.coe_nodup.2 h.nodup)
  simpa using this

theorem ReadSide.close {T : List Frame} {c : ReadConn} (h : ReadSide D idx T c) :
    ReadSide D idx T c.close :=
  ⟨by simpa using h.err, by simpa using h.idx_eq, h.consumed.close, h.tidy.close,
    h.reassembled.close⟩

/-- A frame the bodies carried, taken by an error-free read side, passes and the loop goes
on. -/
theorem ReadSide.rearrange {L : List Obs} (hF : Fits t D idx L) {c : ReadConn}
    (h : ReadSide D idx (taken L) c) {f : Frame}
    (hle : (↑(taken L ++ [f]) : Multiset Frame) ≤ ↑(carried L)) :
    rearrange t c f = .next (c.insert f).drain ∧
      ReadSide D idx (taken L ++ [f]) (c.insert f).drain := by
  obtain ⟨hfs, hnd, hsz⟩ := hF.of_le hle
  obtain ⟨hc, hpos, hD⟩ := hfs f (by simp)
  have hnew : ∀ g ∈ taken L, g.idx.toNat ≠ f.idx.toNat := fun g hg hgf =>
    (List.nodup_append.1 (by simpa using hnd)).2.2 (List.mem_map_of_mem _ hg) (by simp [hgf])
  obtain ⟨hpass, hcons⟩ := rearrange_consumed t h.consumed (h.idx_eq ▸ hc) hpos hnew hsz
  have ht := rearrange_tidy t h.tidy f
  have hr := rearrange_reassembled t h.reassembled hD
  rw [hpass] at ht hr
  exact ⟨hpass, by simpa [ReadConn.insert] using h.err,
    by simpa [ReadConn.insert] using h.idx_eq, hcons, ht, hr⟩

theorem Recv.enveloped_setDrainer {s : Recv} (h : ∀ j, (s.drainer j).Enveloped) {i : Bool}
    {d : Drainer} (hd : d.Enveloped) (j : Bool) : ((s.setDrainer i d).drainer j).Enveloped := by
  rw [Recv.drainer_setDrainer]
  split
  · exact hd
  · exact h j

section
variable {L : List Obs} {s s' : Recv} {o : Option Obs}

/-- `Good` reads neither `pending` nor `respChClosed`. -/
theorem Good.of_eq (h : Good D idx L s) (hc : s'.conn = s.conn) (hr : s'.running = s.running)
    (hq : s'.respCh = s.respCh) (hf : s'.frames = s.frames) (h1 : s'.first = s.first)
    (h2 : s'.second = s.second) : Good D idx L s' := by
  have hin : s'.inFlight = s.inFlight := by simp only [Recv.inFlight, hq, hf, h1, h2]
  have hd : ∀ i, s'.drainer i = s.drainer i := fun i => by cases i <;> simp [Recv.drainer, h1, h2]
  exact ⟨by rw [Flow, hin]; exact h.flow, by rw [hin, hc]; exact h.exact,
    by rw [hc, hr]; exact h.running, by rw [hc]; exact h.side, by rw [hq]; exact h.queued,
    fun i => by rw [hd]; exact h.drainers i⟩

theorem Good.post (h : Good D idx L s) {body : List (Option Frame)}
    (hs : step t s (.post body) = some (s', o)) : Good D idx (L ++ o.toList) s' := by
  obtain ⟨-, rfl, rfl⟩ := step_post hs
  rw [Option.toList_none, List.append_nil]
  exact h.of_eq rfl rfl rfl rfl rfl rfl

/-- An item put on `respCh`, an envelope if it is a body. -/
theorem Good.push (h : Good D idx L s) {n : RespNode} (hn : n.Enveloped)
    (p : Option (List (Option Frame))) (q : List Frame) :
    Good D idx (L ++ [.enqueued n]) { s with pending := p, respCh := s.respCh ++ [n], orch := q } :=
  ⟨h.flow.push n p q, fun hc => by simp [Recv.inFlight_push, ← add_assoc, h.exact hc],
    h.running, by simpa using h.side,
    fun b hb => (List.mem_append.1 hb).elim (h.queued b) fun hb => List.mem_singleton.1 hb ▸ hn,
    h.drainers⟩

theorem Good.enqueue (hF : Fits t D idx (L ++ o.toList)) (h : Good D idx L s)
    (hs : step t s .enqueue = some (s', o)) : Good D idx (L ++ o.toList) s' := by
  obtain ⟨body, -, ⟨-, rfl, rfl⟩ | ⟨-, -, rfl, rfl⟩⟩ := step_enqueue hs
  · rw [Option.toList_none, List.append_nil]
    exact h.of_eq rfl rfl rfl rfl rfl rfl
  · exact h.push (hF.envelope _ (by simp)) none s.orch

theorem Good.dispatch (hF : Fits t D idx (L ++ o.toList)) (h : Good D idx L s) {f : Frame}
    (hs : step t s (.dispatch f) = some (s', o)) : Good D idx (L ++ o.toList) s' := by
  obtain ⟨-, -, ⟨-, -, ⟨-, rfl, rfl⟩ | ⟨-, rfl, rfl⟩⟩ | ⟨-, rfl, rfl⟩⟩ := step_dispatch hs
  · exact absurd hF.not_fault (by simp [Obs.fault])
  all_goals rw [Option.toList_none, List.append_nil]; exact h.of_eq rfl rfl rfl rfl rfl rfl

theorem Good.orchSend (hF : Fits t D idx (L ++ o.toList)) (h : Good D idx L s) {f : Frame}
    (hs : step t s (.orchSend f) = some (s', o)) : Good D idx (L ++ o.toList) s' := by
  obtain ⟨-, ⟨-, rfl, rfl⟩ | ⟨-, -, rfl, rfl⟩⟩ := step_orchSend hs
  · exact absurd hF.not_fault (by simp [Obs.fault])
  · exact h.push (n := .frame f) trivial s.pending _

theorem Good.take (h : Good D idx L s) {i : Bool} (hs : step t s (.take i) = some (s', o)) :
    Good D idx (L ++ o.toList) s' := by
  have hfl := h.flow.step hs
  obtain ⟨n, rest, hd, hr, rfl, rfl⟩ := step_take hs
  have hq : ∀ b ∈ n :: rest, b.Enveloped := hr ▸ h.queued
  refine ⟨hfl, fun hc => by simpa [Recv.inFlight_take hd hr] using h.exact (by simpa using hc),
    by simpa using h.running, by simpa using h.side,
    fun b hb => hq b (List.mem_cons_of_mem _ (by simpa using hb)),
    Recv.enveloped_setDrainer (s := { s with respCh := rest }) h.drainers
      (hq n (List.mem_cons_self _ _)).start⟩

theorem Good.feed (h : Good D idx L s) {i : Bool} (hs : step t s (.feed i) = some (s', o)) :
    Good D idx (L ++ o.toList) s' := by
  have hfl := h.flow.step hs
  have herr : s.conn.err = none := by simpa using h.side.err
  obtain ⟨rfl, ⟨expectedCtr, count, body, hd, rfl⟩ | ⟨f, hd, rfl⟩ | ⟨f, next, hd, hsend⟩⟩ :=
    step_feed hs
  · obtain ⟨hconn, hnext, hrest⟩ := feedIter_envelope herr count
      (hd ▸ h.drainers i : (Drainer.feeding expectedCtr count body).Enveloped)
    refine ⟨hfl, fun hc => ?_, by simpa [hconn] using h.running, by simpa [hconn] using h.side,
      by simpa only [Recv.setDrainer_respCh] using h.queued,
      Recv.enveloped_setDrainer (s := { s with conn := (feedIter s.conn expectedCtr count body).conn })
        h.drainers hnext⟩
    simp only [Recv.setDrainer_conn, hconn] at hc
    have := Recv.inFlight_parse hd s.conn (feedIter s.conn expectedCtr count body).next
    rw [hrest hc] at this
    simpa [hconn, add_right_cancel this] using h.exact hc
  · refine ⟨hfl, fun hc => ?_, by simpa using h.running, by simpa using h.side,
      by simpa only [Recv.setDrainer_respCh] using h.queued,
      Recv.enveloped_setDrainer h.drainers (by split; exacts [feedframe_enveloped f, trivial])⟩
    rw [Recv.setDrainer_conn] at hc
    have := Recv.inFlight_setDrainer s i (feedframe f)
    rw [hd, feedframe_rest] at this
    simpa [if_pos (And.intro herr hc), add_right_cancel this] using h.exact hc
  · have he : next.Enveloped := (h.drainers i).outgoing hd
    rcases hsend with ⟨hcl, rfl⟩ | ⟨-, -, rfl⟩
    · refine ⟨hfl, fun hc => ?_, by simpa using h.running, by simpa using h.side,
        by simpa only [Recv.setDrainer_respCh] using h.queued,
        Recv.enveloped_setDrainer h.drainers trivial⟩
      rw [Recv.setDrainer_conn, hcl] at hc
      cases hc
    · refine ⟨hfl, fun hc => ?_, by simpa using h.running, by simpa using h.side,
        by simpa only [Recv.setDrainer_respCh] using h.queued,
        Recv.enveloped_setDrainer (s := { s with frames := s.frames ++ [f] }) h.drainers he⟩
      simpa [Recv.inFlight_send hd] using h.exact (by simpa using hc)

theorem Good.rearrange (hF : Fits t D idx (L ++ o.toList)) (h : Good D idx L s)
    (hs : step t s .rearrange = some (s', o)) : Good D idx (L ++ o.toList) s' := by
  have hfl := h.flow.step hs
  obtain ⟨-, ⟨f, rest, c, running, hr, hc, rfl, rfl⟩ | ⟨-, hclosed, rfl, rfl⟩⟩ :=
    step_rearrange hs
  · have hin := Recv.inFlight_rearrange hr c running
    have hle : (↑(taken L ++ [f]) : Multiset Frame) ≤ ↑(carried L) := by
      have := h.flow
      rw [Flow, ← hin, ← add_assoc, Multiset.coe_add] at this
      exact le_trans (le_add_right le_rfl) this
    obtain ⟨hpass, hside⟩ := h.side.rearrange hF.of_append hle
    rcases hc with ⟨hc, rfl⟩ | ⟨hc, -⟩ <;> simp only [rearrange_unread, hc, Pass.next.injEq] at hpass
    · have hcl : c.closed = s.conn.closed := by
        rw [← unread_closed c (reads L), hpass, drain_closed]; rfl
      refine ⟨hfl, fun hc' => ?_, fun _ => rfl, by simpa [hpass] using hside, h.queued,
        h.drainers⟩
      have := h.exact (hcl ▸ hc')
      rw [← hin, ← add_assoc, Multiset.coe_add] at this
      simpa using this
    · cases hpass
  · exact ⟨by simpa [Recv.inFlight, Flow] using h.flow,
      fun hc => absurd (hclosed.symm.trans hc) (by decide),
      fun hc => absurd (hclosed.symm.trans hc) (by decide), by simpa using h.side, h.queued,
      h.drainers⟩

theorem Good.read (h : Good D idx L s) {n : Nat} {timedOut : Bool}
    (hs : step t s (.read n timedOut) = some (s', o)) : Good D idx (L ++ o.toList) s' := by
  obtain ⟨rfl, rfl⟩ := step_read hs
  have hc : (s.conn.read n timedOut).2.closed = s.conn.closed := by rw [read_eq]
  refine ⟨by simpa [Recv.inFlight, Flow] using h.flow, fun h' => ?_, fun h' => h.running
    (hc ▸ h'), by simpa [read_unread] using h.side, h.queued, h.drainers⟩
  simpa [Recv.inFlight] using h.exact (hc ▸ h')

theorem Good.close (h : Good D idx L s) (hs : step t s .close = some (s', o)) :
    Good D idx (L ++ o.toList) s' := by
  have hfl := h.flow.step hs
  obtain ⟨rfl, rfl⟩ := step_close hs
  exact ⟨hfl, fun hc => by simp at hc, fun hc => by simp at hc,
    by simpa [close_unread] using h.side.close, h.queued, h.drainers⟩

theorem Good.step (hF : Fits t D idx (L ++ o.toList)) (h : Good D idx L s) {e : Event}
    (hs : RespLoop.step t s e = some (s', o)) : Good D idx (L ++ o.toList) s' := by
  cases e with
  | post _ => exact h.post hs
  | enqueue => exact h.enqueue hF hs
  | dispatch _ => exact h.dispatch hF hs
  | orchSend _ => exact h.orchSend hF hs
  | feedError e =>
    obtain ⟨-, rfl⟩ := step_feedError hs
    exact absurd hF.not_fault (by simp [Obs.fault])
  | take _ => exact h.take hs
  | feed _ => exact h.feed hs
  | timeout _ =>
    obtain ⟨-, -, rfl⟩ := step_timeout hs
    exact absurd hF.not_fault (by simp [Obs.fault])
  | rearrange => exact h.rearrange hF hs
  | read _ _ => exact h.read hs
  | close => exact h.close hs

end

theorem Good.init (blk : List UInt8) : Good D idx [] (Recv.init idx blk) :=
  ⟨le_of_eq rfl, fun _ => rfl, fun _ => rfl,
    ⟨rfl, rfl, consumed_newReadConn idx blk, tidy_newReadConn idx blk,
      reassembled_newReadConn D idx blk⟩,
    fun _ h => (nomatch h), fun i => by cases i <;> trivial⟩

end

end Toh.RespLoop

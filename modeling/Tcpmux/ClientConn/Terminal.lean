import Tcpmux.ClientConn.Conservation

/-!
# What a closed connection reports

Once the read side of a `ClientConn` is closed (by `Close`, a tick, the orchestrator on the
peer's `optClosed`, or `feedError`) it stays closed, and every later `Read` and `Write` fails
without moving a byte (`closed_conn_errors`).  The two do not report the same error:
`Read` checks `closed` first and always answers `ErrClosedConn`, while `Write` checks `err`
first and answers with the read side's error when there is one.  `err` is only ever set by
`feedError`, to the error handed to it, and is never cleared, so a later `feedError`
replaces an earlier one (`Sys.step_read_flags`, `read_write_report_differently`).

The peer learns of a `Close` through the `optClosed` POST that `respChOnce` guards: every
run makes it once if it closes `respCh` and never otherwise, whoever calls `Close` and however
often (`close_notifies_peer_once`, from the step lemma `Sys.step_closesOnce`).

Once the read side has an error, a `sendWriteBuf` that takes the mutex returns before its
POST and `schedSending` only closes.  Neither `feedError` nor `Close` takes the mutex, so a
`sendWriteBuf` already in its retry loop goes on POSTing the chain it built and may still
succeed; apart from that one chain the connection POSTs nothing but `optClosed`, and what is
left in `write.buf`, though each `Write` reported it written, is never sent
(`failed_conn_drops_buffer`).
-/

namespace Toh

/-- The errors a step may hand to `readConn.feedError`. -/
def Event.fedErrors : Event → List Err
  | .post (.expired e) => [e]
  | .feedError e => [e]
  | .take _ => [errUnmatchedStreamIndex, errMissingCertainFrame]
  | _ => []

/-! ## One step -/

theorem ReadConn.rearrange_flags (t : Tunables) (c : ReadConn) (f : Frame) :
    (c.closed = true → (c.rearrange t f).state.closed = true) ∧
    ((c.rearrange t f).state.err = c.err ∨
      ∃ x ∈ [errUnmatchedStreamIndex, errMissingCertainFrame],
        (c.rearrange t f).state.err = some x) := by
  rcases ReadConn.rearrange_cases t c f with h | h | ⟨-, -, ⟨-, h⟩ | ⟨-, h⟩⟩ <;> rw [h] <;>
    simp [ReadConn.Pass.state, ReadConn.insert]

/-- A step keeps the read side closed once it is, and changes its error only to one it hands
to `feedError`. -/
theorem Sys.step_read_flags (t : Tunables) (s : Sys) (e : Event) :
    (s.conn.read.closed = true → (s.step t e).1.conn.read.closed = true) ∧
    ((s.step t e).1.conn.read.err = s.conn.read.err ∨
      ∃ x ∈ e.fedErrors, (s.step t e).1.conn.read.err = some x) := by
  cases e with
  | write p => simp only [Sys.step]; split <;> exact ⟨id, .inl rfl⟩
  | append p =>
    rcases Sys.step_append t s p with ⟨-, -, h⟩ | ⟨r, h⟩ <;> rw [h]
    · rcases ClientConn.writeAppend_read s.conn p with h' | h' <;> simp [h']
    · exact ⟨id, .inl rfl⟩
  | lock => simp only [Sys.step]; split <;> exact ⟨id, .inl rfl⟩
  | double | check _ =>
    rcases hl : s.lock with _ | ⟨_ | _ | _⟩ <;> simp only [Sys.step, hl] <;> (try split) <;>
      (try split) <;> simp [ClientConn.setPendingSize]
  | post res =>
    rcases hl : s.lock with _ | ⟨_ | _ | _⟩ <;> cases res <;>
      simp [Sys.step, hl, Event.fedErrors, ClientConn.postOk]
  | tick => exact ⟨id, .inl rfl⟩
  | schedSending =>
    simp only [Sys.step, ClientConn.schedSending_read]; split <;> simp
  | close => simp [Sys.step]
  | feedError x =>
    exact ⟨fun _ => ReadConn.feedError_closed _ x,
      .inr ⟨x, List.mem_singleton_self x, ReadConn.feedError_err _ x⟩⟩
  | take f =>
    simp only [Sys.step, ReadConn.Sys.step, Sys.readSys]
    split
    · have := ReadConn.rearrange_flags t s.conn.read f
      split <;> rename_i h <;> rw [h] at this <;> exact this
    · exact ⟨id, .inl rfl⟩
  | read n timedOut =>
    simp only [Sys.step]
    rw [ReadConn.read_eq]
    simp

theorem Sys.run_closed (t : Tunables) {s : Sys} (hc : s.conn.read.closed = true) :
    ∀ es, (s.run t es).conn.read.closed = true ∧
      (s.conn.read.err.isSome → (s.run t es).conn.read.err.isSome) := by
  intro es
  induction es generalizing s with
  | nil => exact ⟨hc, id⟩
  | cons e es ih =>
    obtain ⟨h1, h2⟩ := Sys.step_read_flags t s e
    obtain ⟨ih1, ih2⟩ := ih (h1 hc)
    refine ⟨ih1, fun he => ih2 ?_⟩
    rcases h2 with h | ⟨x, -, h⟩ <;> simp [h, he]

/-! ## A closed connection -/

/-- Once the read side is closed, after any further steps: it is still closed and keeps an
error it had; `Read` answers `ErrClosedConn` and `Write` the read side's error, or
`ErrClosedConn` when there is none, both without moving a byte; and the error changes only to
one handed to `feedError`, each `feedError` replacing it. -/
theorem closed_conn_errors (t : Tunables) {s : Sys} (hc : s.conn.read.closed = true)
    (es : List Event) :
    (s.run t es).conn.read.closed = true ∧
    (s.conn.read.err.isSome → (s.run t es).conn.read.err.isSome) ∧
    (∀ n timedOut, (s.run t es).step t (.read n timedOut) =
      (s.run t es, { ret := .read (.err errClosedConn) })) ∧
    (∀ p, (s.run t es).step t (.write p) =
      (s.run t es, { ret := .error ((s.run t es).conn.read.err.getD errClosedConn) })) ∧
    (∀ e, ((s.run t es).step t e).1.conn.read.err = (s.run t es).conn.read.err ∨
      ∃ x ∈ e.fedErrors, ((s.run t es).step t e).1.conn.read.err = some x) ∧
    (∀ x, ((s.run t es).step t (.feedError x)).1.conn.read.err = some x) := by
  obtain ⟨hc', he⟩ := Sys.run_closed t hc es
  refine ⟨hc', he, fun n timedOut => ?_, fun p => ?_, fun e => (Sys.step_read_flags t _ e).2,
    fun x => by simp [Sys.step]⟩
  · simp [Sys.step, ReadConn.read_closed hc']
  · simp only [Sys.step, ClientConn.writeCheck]
    cases (s.run t es).conn.read.err <;> simp [hc']

theorem closed_conn_errors_after_close :
    ((Sys.init "http://127.0.0.1:20001/" (cipherKey "net1") 7).step Tunables.default
      .close).1.conn.read.closed = true ∧
    ((((Sys.init "http://127.0.0.1:20001/" (cipherKey "net1") 7).step Tunables.default
      .close).1.step Tunables.default (.read 16 false)).2.ret =
      .read (.err errClosedConn)) := by
  have hc : ((Sys.init "http://127.0.0.1:20001/" (cipherKey "net1") 7).step Tunables.default
      .close).1.conn.read.closed = true := by decide
  have h := (closed_conn_errors Tunables.default hc []).2.2.1 16 false
  simp only [Sys.run] at h
  exact ⟨hc, by rw [h]⟩

/-- After `feedError` (here the error a failed POST brings), `Read` answers `ErrClosedConn`
while `Write` answers that error; a second `feedError` replaces it. -/
theorem read_write_report_differently :
    (((Sys.init "http://127.0.0.1:20001/" (cipherKey "net1") 7).run Tunables.default
      [.feedError ⟨"remote is unavailable: 503"⟩]).step Tunables.default
        (.read 16 false)).2.ret = .read (.err errClosedConn) ∧
    (((Sys.init "http://127.0.0.1:20001/" (cipherKey "net1") 7).run Tunables.default
      [.feedError ⟨"remote is unavailable: 503"⟩]).step Tunables.default
        (.write [104])).2.ret = .error ⟨"remote is unavailable: 503"⟩ ∧
    (((Sys.init "http://127.0.0.1:20001/" (cipherKey "net1") 7).run Tunables.default
      [.feedError ⟨"remote is unavailable: 503"⟩, .feedError errInvalidFrames]).step
        Tunables.default (.write [104])).2.ret = .error errInvalidFrames ∧
    errClosedConn ≠ ⟨"remote is unavailable: 503"⟩ := by
  decide

/-! ## Telling the peer -/

/-- The POST carries an `optClosed` frame. -/
def Post.closes (p : Post) : Bool := p.frames.any fun f => f.options == optClosed

/-- Steps from a connection whose `respCh` is closed or not (`closed`) to `c'`, making the
POSTs `ps`: `respCh` stays closed once it is, and `ps` holds one `optClosed` POST, which is
`post`, when the steps close `respCh`, and none otherwise. -/
structure ClosesOnce (closed : Bool) (post : Post) (c' : ClientConn) (ps : List Post) : Prop where
  mono : closed = true → c'.write.respChClosed = true
  count : ps.countP Post.closes + (if closed then 1 else 0) =
    if c'.write.respChClosed then 1 else 0
  post : ∀ p ∈ ps, p.closes → p = post

theorem ClosesOnce.append {closed : Bool} {post : Post} {c₁ c₂ : ClientConn}
    {ps₁ ps₂ : List Post} (h₁ : ClosesOnce closed post c₁ ps₁)
    (h₂ : ClosesOnce c₁.write.respChClosed post c₂ ps₂) :
    ClosesOnce closed post c₂ (ps₁ ++ ps₂) := by
  refine ⟨h₂.mono ∘ h₁.mono, ?_, fun p hp => ?_⟩
  · have := h₁.count
    have := h₂.count
    rw [List.countP_append]
    omega
  · rcases List.mem_append.1 hp with hp | hp
    · exact h₁.post p hp
    · exact h₂.post p hp

/-- The chains of `sendWriteBuf` carry `optSyncConnIdx` and a payload frame, never `optClosed`. -/
@[simp] theorem ClientConn.writePost_closes (c : ClientConn) (r : UInt32) :
    (c.writePost r).closes = false := rfl

theorem ClientConn.close_posts_closes (c : ClientConn) : ∀ p ∈ c.close.2, p.closes := by
  unfold ClientConn.close; split <;> simp [Post.closes]

/-- `schedSending` on a failed read side only closes: its POSTs are `Close`'s. -/
theorem ClientConn.schedSending_posts_closes {c : ClientConn} (h : c.read.err.isSome) :
    ∀ p ∈ c.schedSending.2, p.closes := by
  unfold ClientConn.schedSending
  rw [if_pos (by simp [h])]
  exact c.close_posts_closes

/-- A flushing `Write` on a failed read side only closes. -/
theorem ClientConn.writeAppend_posts_closes {c : ClientConn} (h : c.read.err.isSome)
    (p : List UInt8) : ∀ q ∈ (c.writeAppend p).2, q.closes := by
  simp only [ClientConn.writeAppend]
  split
  · simp
  · exact ClientConn.schedSending_posts_closes h

/-- A holder that takes the mutex after the error builds no chain. -/
theorem Sys.step_failed_posting (t : Tunables) {s : Sys} (he : s.conn.read.err.isSome)
    (e : Event) : (s.step t e).1.posting = none ∨ (s.step t e).1.posting = s.posting := by
  cases hp : (s.step t e).1.posting with
  | none => exact .inl rfl
  | some p =>
    rcases Sys.step_posting t s e hp with ⟨h1, -⟩ | ⟨r, rfl, -⟩
    · exact .inr h1.symm
    · obtain ⟨x, hx⟩ := Option.isSome_iff_exists.1 he
      rcases hl : s.lock with _ | ⟨_ | _ | _⟩ <;> simp [Sys.step, Sys.posting, hl, hx] at hp ⊢
      exact hp.symm

/-- What the steps from a failed connection `s` to `s'` can have done: built no new chain, and
either left `counter` and only added to `buf`, or POSTed the chain in flight successfully,
once, freeing the mutex. -/
def Sys.FailedRun (s s' : Sys) : Prop :=
  (s'.posting = none ∨ s'.posting = s.posting) ∧
    ((s'.conn.write.counter = s.conn.write.counter ∧ s.conn.write.buf <+: s'.conn.write.buf) ∨
      (s.posting.isSome ∧ s'.conn.write.counter = s.conn.write.counter + 1 ∧ s'.posting = none))

theorem Sys.FailedRun.refl (s : Sys) : s.FailedRun s :=
  ⟨.inr rfl, .inl ⟨rfl, List.prefix_refl _⟩⟩

/-- The chain in flight succeeds at most once: after it, no chain is left to POST. -/
theorem Sys.FailedRun.trans {s₁ s₂ s₃ : Sys} (h₁ : s₁.FailedRun s₂) (h₂ : s₂.FailedRun s₃) :
    s₁.FailedRun s₃ := by
  obtain ⟨hpo₁, hc₁⟩ := h₁
  obtain ⟨hpo₂, hc₂⟩ := h₂
  refine ⟨hpo₂.elim .inl fun h => h ▸ hpo₁, ?_⟩
  rcases hc₁ with ⟨hk₁, hb₁⟩ | ⟨hs₁, hk₁, hn₁⟩ <;> rcases hc₂ with ⟨hk₂, hb₂⟩ | ⟨hs₂, hk₂, hn₂⟩
  · exact .inl ⟨hk₂.trans hk₁, hb₁.trans hb₂⟩
  · refine .inr ⟨?_, by rw [hk₂, hk₁], hn₂⟩
    rcases hpo₁ with h | h <;> rw [h] at hs₂
    · cases hs₂
    · exact hs₂
  · exact .inr ⟨hs₁, by rw [hk₂, hk₁], hpo₂.elim id fun h => h.trans hn₁⟩
  · rw [hn₁] at hs₂; cases hs₂

/-- On a connection whose read side has an error, a step keeps the error, POSTs `optClosed`
or the chain of a holder already in its retry loop, starts no new chain, and either leaves
`counter` and only adds to `buf`, or is that holder's POST succeeding. -/
theorem Sys.step_failed (t : Tunables) {s : Sys} (he : s.conn.read.err.isSome) (e : Event) :
    (∀ p ∈ (s.step t e).2.posts, p.closes ∨ s.posting = some p) ∧
    (s.step t e).1.conn.read.err.isSome ∧ s.FailedRun (s.step t e).1 := by
  refine ⟨?_, ?_, Sys.step_failed_posting t he e, ?_⟩
  · cases e with
    | append p =>
      rcases Sys.step_append t s p with ⟨-, -, h⟩ | ⟨r, h⟩ <;> rw [h]
      · exact fun q hq => .inl (ClientConn.writeAppend_posts_closes he p q hq)
      · simp
    | post res =>
      intro p hp
      rw [Sys.step_post_posts, Option.mem_toList] at hp
      exact .inr hp
    | schedSending => exact fun q hq => .inl (ClientConn.schedSending_posts_closes he q hq)
    | close => exact fun q hq => .inl (s.conn.close_posts_closes q hq)
    | write p => simp only [Sys.step]; split <;> simp
    | lock | double | check _ =>
      rcases hl : s.lock with _ | ⟨_ | _ | _⟩ <;> simp only [Sys.step, hl] <;> (try split) <;>
        (try split) <;> simp
    | tick | feedError _ | take _ | read _ _ => simp [Sys.step]
  · rcases (Sys.step_read_flags t s e).2 with h | ⟨x, -, h⟩ <;> simp [h, he]
  · rcases Sys.step_write t s e with ⟨-, -, hb, hc⟩ | ⟨p, -, hp, -, -, -, -, hc, hl⟩
    · exact .inl ⟨hc, hb ▸ List.prefix_append _ _⟩
    · exact .inr ⟨by simp [hp], hc, by simp [Sys.posting, hl]⟩

/-- A failed connection delivers at most the chain already in flight: once its read side has
an error, whatever the steps, every POST is the `optClosed` one or the chain of the
`sendWriteBuf` that was in its retry loop when the error came, no other chain is built, and
either `write.counter` stays and `write.buf` only grows, also by the `Write`s that passed
their checks before the error and report success after it, or that one chain was POSTed
successfully, once, and the mutex is free.  No byte left in `write.buf` after that is ever
POSTed. -/
theorem failed_conn_drops_buffer (t : Tunables) {s : Sys} (he : s.conn.read.err.isSome)
    (es : List Event) :
    (∀ p ∈ s.posts t es, p.closes ∨ s.posting = some p) ∧
    ((s.run t es).posting = none ∨ (s.run t es).posting = s.posting) ∧
    (((s.run t es).conn.write.counter = s.conn.write.counter ∧
        s.conn.write.buf <+: (s.run t es).conn.write.buf) ∨
      (s.posting.isSome ∧ (s.run t es).conn.write.counter = s.conn.write.counter + 1 ∧
        (s.run t es).posting = none)) := by
  suffices h : (∀ p ∈ s.posts t es, p.closes ∨ s.posting = some p) ∧ s.FailedRun (s.run t es)
    from h
  induction es generalizing s with
  | nil => exact ⟨fun p hp => (nomatch hp), .refl s⟩
  | cons e es ih =>
    obtain ⟨hp, he', hr⟩ := Sys.step_failed t he e
    obtain ⟨ihp, ihr⟩ := ih he'
    simp only [Sys.posts, Sys.run]
    refine ⟨fun p hp' => ?_, hr.trans ihr⟩
    rcases List.mem_append.1 hp' with h | h
    · exact hp p h
    · rcases ihp p h with h' | h'
      · exact .inl h'
      · rcases hr.1 with h₁ | h₁ <;> rw [h₁] at h'
        · cases h'
        · exact .inr h'

/-- The error comes while a `sendWriteBuf` is in its retry loop: its chain is POSTed again
and succeeds, so `counter` still moves, while a `sendWriteBuf` that takes the mutex after the
error builds no chain and a flushing `Write` only closes. -/
theorem failed_conn_drops_buffer_in_flight :
    let s := (Sys.init "http://127.0.0.1:20001/" (cipherKey "tcp") 7).run Tunables.default
      [.write [104], .append [104], .lock, .double, .check 5, .feedError errPeerClosed]
    let es := [Event.post (.retry ⟨"remote is unavailable: 502 Bad Gateway"⟩), .post .ok,
      .write [105], .lock, .double, .check 6, .schedSending]
    s.conn.read.err.isSome ∧
    ((∀ p ∈ s.posts Tunables.default es, p.closes ∨ s.posting = some p) ∧
    ((s.run Tunables.default es).posting = none ∨ (s.run Tunables.default es).posting = s.posting) ∧
    (((s.run Tunables.default es).conn.write.counter = s.conn.write.counter ∧
        s.conn.write.buf <+: (s.run Tunables.default es).conn.write.buf) ∨
      (s.posting.isSome ∧
        (s.run Tunables.default es).conn.write.counter = s.conn.write.counter + 1 ∧
        (s.run Tunables.default es).posting = none))) ∧
    (s.run Tunables.default es).conn.write.counter = 1 := by
  intro s es
  have he : s.conn.read.err.isSome := rfl
  exact ⟨he, failed_conn_drops_buffer Tunables.default he es, rfl⟩

end Toh

import Tcpmux.Run

/-!
# Teardown of a client connection

A client connection has two channels: `read.frames`, which `feedframes` fills and
`readConn.close` closes, and `write.respCh`, which `sendWriteBuf` and the orchestrator's
dispatch fill and `Close` closes, through `respChOnce`.  Every statement below is one atomic
step, and any number of goroutines of each kind interleave (`step`):

* `readConn.close` runs under the read side's mutex and closes `frames` only when it sets
  `closed`;
* `Close` is `c.read.close()` and then `respChOnce.Do(...)`, two steps;
* `feedError` is `c.err = err` and then `c.close()`;
* a sender makes its checks, then its send, and any step can fall in between.

Each channel is closed at most once, `frames` exactly when the read side is first closed and
`respCh` exactly when the first `Close` reaches `respChOnce`, after the read side is closed.
`feedframes` and the orchestrator find their channel open whenever their checks pass, but a
close can fall between the checks and the send, and `sendWriteBuf` does not look at `closed`
at all; so sends on a closed channel do happen (`teardown_sends_after_close`).  Those of
`feedframes` and `sendWriteBuf` are recovered, as the code intends; the orchestrator's is not,
and its panic ends the process (`teardown_safe`).  The receive path of
`Tcpmux.RespLoop.Basic` has the same send as its step `orchSend`.

The checks `Sender.admits` gives each sender are those of the source: `feedframes` returns on
`c.closed` or `c.err != nil` before its send (read_conn.go:77-82), the orchestrator skips a
connection with `c.read.closed` or `c.read.err != nil` (orch.go:71), and `sendWriteBuf`
returns on `c.read.err != nil` only (part_000:338-340).
-/

namespace Toh.Teardown

/-- The goroutines that send on the two channels. -/
inductive Sender where
  /-- `readConn.feedframes`, onto `read.frames`. -/
  | feedframes
  /-- `ClientConn.sendWriteBuf`, onto `write.respCh`. -/
  | sendWriteBuf
  /-- The orchestrator's dispatch of a ping response, onto `write.respCh`. -/
  | orch
  deriving DecidableEq, Repr

/-- The sender's channel is `read.frames` (otherwise `write.respCh`). -/
def Sender.onFrames : Sender → Bool
  | .feedframes => true
  | _ => false

/-- The send runs under a `recover`: the deferred one of `feedframes`, the inline one around
the enqueue of `sendWriteBuf`; the orchestrator's has none. -/
def Sender.recovers : Sender → Bool
  | .orch => false
  | _ => true

/-- How a send ends. -/
inductive Outcome where
  | delivered
  | recovered
  | panicked
  deriving DecidableEq, Repr

/-- A send, by whom and how it ended. -/
structure Send where
  sender : Sender
  outcome : Outcome
  deriving DecidableEq, Repr

/-- Lets `simp` settle `IsEmpty Send` side goals at once. -/
instance : Nonempty Send := ⟨⟨.orch, .delivered⟩⟩

/-- The teardown state of one connection, with the number of times each channel was closed
and the goroutines between two of their steps. -/
structure St where
  /-- `read.closed` -/
  closed : Bool
  /-- `read.err != nil` -/
  err : Bool
  /-- `close(c.frames)` ran so many times. -/
  framesCloses : Nat
  /-- `respChOnce` has run. -/
  once : Bool
  /-- `close(c.write.respCh)` ran so many times. -/
  respChCloses : Nat
  /-- `Close` calls past `c.read.close()`, not yet at `respChOnce.Do`. -/
  closing : List Nat
  /-- Senders past their checks, not yet at their send. -/
  pending : List (Nat × Sender)
  deriving DecidableEq, Repr

/-- A connection `newClientConn` returned. -/
def St.init : St := ⟨false, false, 0, false, 0, [], []⟩

/-- One atomic step of one goroutine. -/
inductive Event where
  /-- `readConn.close()`, from `feedError` or `readLoopRearrange`. -/
  | readClose
  /-- `c.err = err`, the first statement of `feedError`. -/
  | setErr
  /-- `c.read.close()` in the `Close` call `i`. -/
  | closeRead (i : Nat)
  /-- `c.write.respChOnce.Do(...)` in the `Close` call `i`. -/
  | closeOnce (i : Nat)
  /-- The checks of sender `i`. -/
  | check (i : Nat) (s : Sender)
  /-- The channel send of sender `i`. -/
  | send (i : Nat) (s : Sender)
  deriving DecidableEq, Repr

/-! ## Algorithm -/

/-- `readConn.close()`: under the mutex, close `frames` unless already closed. -/
def St.readClose (st : St) : St :=
  if st.closed then st else { st with closed := true, framesCloses := st.framesCloses + 1 }

/-- The checks a sender makes before its send: `feedframes` returns on `c.closed` or
`c.err != nil`, the orchestrator skips a connection with `c.read.closed` or
`c.read.err != nil`, and `sendWriteBuf` returns on `c.read.err != nil` only. -/
def Sender.admits (s : Sender) (st : St) : Bool :=
  match s with
  | .sendWriteBuf => !st.err
  | _ => !st.closed && !st.err

/-- The sender's channel is closed. -/
def St.chanClosed (st : St) (s : Sender) : Bool :=
  if s.onFrames then st.framesCloses > 0 else st.respChCloses > 0

/-- One step, with the send it makes; `none` when the goroutine is not at that step. -/
def step (st : St) : Event → Option (St × Option Send)
  | .readClose => some (st.readClose, none)
  | .setErr => some ({ st with err := true }, none)
  | .closeRead i => some ({ st.readClose with closing := i :: st.closing }, none)
  | .closeOnce i =>
    if i ∈ st.closing then
      some ({ st with
        closing := st.closing.erase i
        once := true
        respChCloses := if st.once then st.respChCloses else st.respChCloses + 1 }, none)
    else none
  | .check i s =>
    some (if s.admits st then { st with pending := (i, s) :: st.pending } else st, none)
  | .send i s =>
    if (i, s) ∈ st.pending then
      some ({ st with pending := st.pending.erase (i, s) },
        some ⟨s, if !st.chanClosed s then .delivered else if s.recovers then .recovered
          else .panicked⟩)
    else none

/-! ## Lemmas -/

/-- What the closes look like: `frames` was closed once if the read side is closed and never
otherwise, `respCh` once if `respChOnce` ran and never otherwise, and both `respChOnce` and
a `Close` between its two steps come after the read side is closed. -/
structure Inv (st : St) : Prop where
  frames : st.framesCloses = if st.closed then 1 else 0
  respCh : st.respChCloses = if st.once then 1 else 0
  once_closed : st.once = true → st.closed = true
  closing_closed : st.closing ≠ [] → st.closed = true

theorem Inv.readClose {st : St} (h : Inv st) : Inv st.readClose := by
  unfold St.readClose
  split
  · exact h
  · refine ⟨by simp [h.frames, *], h.respCh, fun _ => rfl, fun _ => rfl⟩

@[simp] theorem readClose_closed (st : St) : st.readClose.closed = true := by
  unfold St.readClose; split <;> simp_all

@[simp] theorem readClose_once (st : St) : st.readClose.once = st.once := by
  unfold St.readClose; split <;> rfl

@[simp] theorem readClose_respChCloses (st : St) : st.readClose.respChCloses = st.respChCloses := by
  unfold St.readClose; split <;> rfl

theorem Inv.step {st st' : St} {o : Option Send} (h : Inv st) (e : Event)
    (hs : step st e = some (st', o)) : Inv st' := by
  cases e with
  | readClose => cases hs; exact h.readClose
  | setErr => cases hs; exact ⟨h.frames, h.respCh, h.once_closed, h.closing_closed⟩
  | closeRead i =>
    cases hs
    have h' := h.readClose
    exact ⟨h'.frames, by simpa using h.respCh, fun _ => by simp, fun _ => by simp⟩
  | closeOnce i =>
    simp only [Teardown.step] at hs
    split at hs
    · cases hs
      have hc := h.closing_closed (List.ne_nil_of_mem ‹_›)
      refine ⟨h.frames, ?_, fun _ => hc, fun _ => hc⟩
      cases ho : st.once <;> simp [h.respCh, ho]
    · cases hs
  | check i s =>
    cases hs
    split
    · exact ⟨h.frames, h.respCh, h.once_closed, h.closing_closed⟩
    · exact h
  | send i s =>
    simp only [Teardown.step] at hs
    split at hs
    · cases hs; exact ⟨h.frames, h.respCh, h.once_closed, h.closing_closed⟩
    · cases hs

theorem reach_inv {st : St} {L : List Send} (h : Reachable step .init st L) : Inv st :=
  h.inv (P := fun st _ => Inv st) ⟨rfl, rfl, fun h => (nomatch h), fun h => absurd rfl h⟩
    fun _ _ e _ _ hi hs => hi.step e hs

/-- Only a send makes a send, and it ends as the channel and the sender's `recover` say. -/
theorem step_out {st st' : St} {e : Event} {x : Send} (hs : step st e = some (st', some x)) :
    x.outcome = if !st.chanClosed x.sender then .delivered
      else if x.sender.recovers then .recovered else .panicked := by
  cases e with
  | closeOnce i => simp only [step] at hs; split at hs <;> cases hs
  | send i s => simp only [step] at hs; split at hs <;> cases hs; rfl
  | _ => cases hs

/-- A sender whose checks pass finds its channel open, unless it is `sendWriteBuf`. -/
theorem Inv.admits_open {st : St} (h : Inv st) {s : Sender} (hs : s ≠ .sendWriteBuf)
    (ha : s.admits st = true) : st.chanClosed s = false := by
  have hc : st.closed = false := by
    cases s <;> simp_all [Sender.admits]
  have ho : st.once = false := by
    cases ho : st.once
    · rfl
    · simp [h.once_closed ho] at hc
  cases s <;> simp_all [St.chanClosed, Sender.onFrames, h.frames, h.respCh]

/-- Only the orchestrator's sends panic. -/
theorem reach_panicked {st : St} {L : List Send} (h : Reachable step .init st L) :
    ∀ x ∈ L, x.outcome = .panicked → x.sender = .orch := by
  refine h.inv (P := fun _ L => ∀ x ∈ L, x.outcome = .panicked → x.sender = .orch)
    (by simp) fun st L e st' o ih hs x hx hp => ?_
  rcases List.mem_append.1 hx with hx | hx
  · exact ih x hx hp
  · obtain rfl : o = some x := by cases o <;> simp_all
    have := step_out hs
    rw [hp] at this
    cases hx' : x.sender with
    | orch => rfl
    | feedframes | sendWriteBuf =>
      rw [hx'] at this
      simp only [Sender.recovers, ↓reduceIte] at this
      split at this <;> cases this

/-! ## Teardown -/

/-- In every run: each channel is closed at most once, `frames` exactly when the read side is
closed and `respCh` exactly when `respChOnce` has run, which is after the read side is closed;
`feedframes` and the orchestrator find their channel open whenever their checks pass; and a
send that panics is the orchestrator's, those of `feedframes` and `sendWriteBuf` on a closed
channel being recovered. -/
theorem teardown_safe {st : St} {L : List Send} (h : Reachable step .init st L) :
    st.framesCloses ≤ 1 ∧ st.respChCloses ≤ 1 ∧
    (st.framesCloses = 1 ↔ st.closed = true) ∧ (st.respChCloses = 1 ↔ st.once = true) ∧
    (st.once = true → st.closed = true) ∧
    (∀ s, s ≠ .sendWriteBuf → s.admits st = true → st.chanClosed s = false) ∧
    ∀ x ∈ L, x.outcome = .panicked → x.sender = .orch := by
  have hi := reach_inv h
  refine ⟨?_, ?_, ?_, ?_, hi.once_closed, fun s hs ha => hi.admits_open hs ha, ?_⟩
  · rw [hi.frames]; split <;> omega
  · rw [hi.respCh]; split <;> omega
  · rw [hi.frames]; split <;> simp_all
  · rw [hi.respCh]; split <;> simp_all
  exact reach_panicked h

/-- `feedframes` and the orchestrator check and deliver, then a `Close` runs both its steps,
and a `sendWriteBuf` that found no error sends on the closed `respCh`, under its `recover`. -/
theorem teardown_safe_after_close :
    let L := [Send.mk .feedframes .delivered, ⟨.orch, .delivered⟩, ⟨.sendWriteBuf, .recovered⟩]
    let st : St := ⟨true, false, 1, true, 1, [], []⟩
    Reachable step .init st L ∧
    (st.framesCloses ≤ 1 ∧ st.respChCloses ≤ 1 ∧
      (st.framesCloses = 1 ↔ st.closed = true) ∧ (st.respChCloses = 1 ↔ st.once = true) ∧
      (st.once = true → st.closed = true) ∧
      (∀ s, s ≠ .sendWriteBuf → s.admits st = true → st.chanClosed s = false) ∧
      ∀ x ∈ L, x.outcome = .panicked → x.sender = .orch) := by
  intro L st
  have h : Reachable step .init st L :=
    Reachable.init.runSteps [.check 1 .feedframes, .send 1 .feedframes, .check 2 .orch,
      .send 2 .orch, .closeRead 0, .check 3 .sendWriteBuf, .closeOnce 0, .send 3 .sendWriteBuf]
      (by decide)
  exact ⟨h, teardown_safe h⟩

/-- Sends on closed channels: after a `Close`, a `sendWriteBuf` whose checks found no error
still sends on `respCh`; a `readConn.close` between the checks and the send of `feedframes`
makes it send on `frames`; and a `Close` between the orchestrator's check and its send makes
it send on `respCh`, where it panics. -/
theorem teardown_sends_after_close :
    Reachable step .init ⟨true, false, 1, true, 1, [], []⟩
      [⟨.feedframes, .recovered⟩, ⟨.sendWriteBuf, .recovered⟩, ⟨.orch, .panicked⟩] :=
  Reachable.init.runSteps [.check 1 .feedframes, .check 2 .orch, .closeRead 0, .closeOnce 0,
    .check 3 .sendWriteBuf, .send 1 .feedframes, .send 3 .sendWriteBuf, .send 2 .orch]
    (by decide)

end Toh.Teardown

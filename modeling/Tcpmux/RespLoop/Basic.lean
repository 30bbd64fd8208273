import Tcpmux.ReadConn.Distinct
import Tcpmux.Run

/-!
# The receive path of a client connection: the model

`newClientConn` starts two `respLoop` goroutines.  Each takes an item from `write.respCh`: a
response body `respNode{r}`, which it runs `feedframes` on, or a frame `respNode{f}` of an
orchestrator ping response, which it hands to `feedframe` while the read side is open and has
no error (part_000:404-408).  Both send frames on `read.frames`; `readLoopRearrange` takes
them from there and reassembles the stream, and the application's `Read` takes the bytes from
`buf`.  `sendWriteBuf` puts bodies on `respCh` (part_000:365); the orchestrator's ping
goroutines check each frame of their response for this connection and put it on `respCh`
(orch.go:66-79); `Close` closes `respCh` together with the read side.  Every step is one
statement of one of these goroutines (`step`): the drainers interleave with each other and
with everything else, and a send blocks on a full channel (`respCh` holds 16 items, `frames`
1024 frames).  A `sendWriteBuf` blocked in its send on `respCh` holds the write lock, so no
other one starts until the send completes; the error check it made before its POST may be
stale by then.  A send on the closed `respCh` panics: `sendWriteBuf` recovers and drops its
body, a ping goroutine does not, and the run records the crash (`Obs.panicked`).  Faults come
from outside the path: `respLoop` closes a body `ClientReadTimeout` after taking it,
`sendWriteBuf` past its deadline calls `feedError`, and so does a ping goroutine on an
`optClosed` frame.  Each kind of step has its inversion lemma, guards included (`step_post`,
…, `step_close`).

A goroutine that runs its `feedframes` with nothing in between ends where the whole-loop model
`feedLoop` ends (`feed_alone`), so what `Tcpmux.ReadConn.Feed` shows of one body holds of each
goroutine here.

A `respLoop` goroutine that finds `respCh` closed and empty returns; an idle goroutine stands
for it, as no item can reach it any more.  After a panic the process is gone; the model lets
the other goroutines go on, which only adds runs.  Each frame a ping goroutine has checked and
not yet sent stands for a goroutine of its own (`Recv.orch`), so they may send in any order.
-/

namespace Toh.RespLoop

open ReadConn

/-! ## Algorithm -/

/-- An item of `respCh` (`respNode`): a response body, given by the results of its
`parseframe`s (`respNode{r: resp.Body}`), or one frame of a ping response
(`respNode{f: f}`). -/
inductive RespNode where
  | body (r : List (Option Frame))
  | frame (f : Frame)
  deriving DecidableEq

/-- Where a `respLoop` goroutine is. -/
inductive Drainer where
  /-- Waiting on `respCh`. -/
  | idle
  /-- Inside `feedframes` at its `parseframe`, with the loop variables `expectedCtr` and
  `count` and the `parseframe` results still to come. -/
  | feeding (expectedCtr count : Nat) (body : List (Option Frame))
  /-- Inside `feedframes` at its send of `f` on `frames`. -/
  | sending (expectedCtr count : Nat) (f : Frame) (body : List (Option Frame))
  /-- At the check `c.read.err == nil && !c.read.closed` on a frame `f` taken from
  `respCh`. -/
  | single (f : Frame)
  /-- Inside `feedframe` at its send of `f` on `frames`. -/
  | forwarding (f : Frame)
  deriving DecidableEq

/-- Where a goroutine goes with the item it took from `respCh`. -/
def RespNode.start : RespNode → Drainer
  | .body r => .feeding 0 0 r
  | .frame f => .single f

/-- Where a `parseframe` and the checks after it leave its goroutine: the read side, and the
goroutine at its next statement, back in `respLoop` once `feedframes` returned. -/
structure Iter where
  conn : ReadConn
  next : Drainer

/-- The `for` loop of `feedframes` from its `parseframe` to its send, on the read side `c`,
which the other goroutines may have changed since the last iteration. -/
def feedIter (c : ReadConn) (expectedCtr count : Nat) : List (Option Frame) → Iter
  | [] => ⟨c.feedError errInvalidFrames, .idle⟩
  | none :: _ => ⟨c.feedError errInvalidFrames, .idle⟩
  | some f :: body =>
    if f.idx = 0 then ⟨c, .idle⟩
    else if expectedCtr > 0 ∧ f.idx.toNat ≠ expectedCtr then
      ⟨c.feedError errUnsyncedCounter, .idle⟩
    else if c.closed then ⟨c, .idle⟩
    else match c.err with
      | some _ => ⟨c, .idle⟩
      | none =>
        if isSyncCtr f then ⟨c, .feeding f.idx.toNat count body⟩
        else ⟨c, .sending expectedCtr count f body⟩

/-- Modelled from the spec: `feedframe`, which `respLoop` calls on a frame the orchestrator
delivered (part_000:407), is not in the snapshot.  The spec drains such a frame like the
frames of a response body (§4.5, §4.7), so it is modelled as one turn of the loop of
`feedframes` past its checks: a checkpoint (`optSyncCtr`) is dropped, any other frame is sent
on `frames`, and a send on the closed `frames` is recovered.  The result is where the
goroutine goes. -/
def feedframe (f : Frame) : Drainer := if isSyncCtr f then .idle else .forwarding f

/-- The goroutine once `body.r.Close()` has run: every later `parseframe` fails. -/
def Drainer.closeBody : Drainer → Drainer
  | .feeding expectedCtr count _ => .feeding expectedCtr count []
  | .sending expectedCtr count f _ => .sending expectedCtr count f []
  | d => d

/-- Whether the goroutine is inside `feedframes`, on a body whose read timeout is armed. -/
def Drainer.feedsBody : Drainer → Bool
  | .feeding .. | .sending .. => true
  | _ => false

/-- The send a goroutine is at: the frame, and where the goroutine goes once it is made. -/
def Drainer.outgoing : Drainer → Option (Frame × Drainer)
  | .sending expectedCtr count f body =>
    some (f, .feeding expectedCtr (count + f.data.length) body)
  | .forwarding f => some (f, .idle)
  | _ => none

/-- The receive path of a client connection: its read side, whether `readLoopRearrange`
still runs, the body of a `sendWriteBuf` waiting to send on `respCh`, the items on `respCh`
and whether it is closed, the frames on `frames`, the two `respLoop` goroutines
`newClientConn` starts, and the frames ping goroutines have checked and are sending on
`respCh`. -/
structure Recv where
  conn : ReadConn
  running : Bool
  pending : Option (List (Option Frame))
  respCh : List RespNode
  respChClosed : Bool
  frames : List Frame
  first : Drainer
  second : Drainer
  orch : List Frame

/-- A read side just made by `newReadConn`, with its goroutines started. -/
def Recv.init (idx : UInt32) (blk : List UInt8) : Recv :=
  ⟨.newReadConn idx blk, true, none, [], false, [], .idle, .idle, []⟩

/-- The `respLoop` goroutine `second` selects. -/
def Recv.drainer (s : Recv) : Bool → Drainer
  | false => s.first
  | true => s.second

/-- The state with the goroutine `second` selects replaced. -/
def Recv.setDrainer (s : Recv) : Bool → Drainer → Recv
  | false, d => { s with first := d }
  | true, d => { s with second := d }

/-- `make(chan respNode, 16)` in `newClientConn`. -/
def respChCap : Nat := 16

/-- `make(chan frame, 1024)` in `newReadConn`. -/
def framesCap : Nat := 1024

/-- One atomic statement of one goroutine of the receive path. -/
inductive Event where
  /-- A `sendWriteBuf` holding the write lock gets the response `body` to its POST. -/
  | post (body : List (Option Frame))
  /-- That `sendWriteBuf` sends its body on `respCh` and releases the lock. -/
  | enqueue
  /-- `feedError(e)` from `sendWriteBuf` past its deadline. -/
  | feedError (e : Err)
  /-- A ping goroutine takes `f` from its response and looks it up for this connection: the
  checks of orch.go:66-77. -/
  | dispatch (f : Frame)
  /-- A ping goroutine sends `f`, which it checked, on `respCh` (orch.go:78). -/
  | orchSend (f : Frame)
  /-- A `respLoop` goroutine receives an item from `respCh`. -/
  | take (second : Bool)
  /-- A `respLoop` goroutine runs its next statement: a `parseframe` of `feedframes` with the
  checks after it, the check on a frame, or a send on `frames`. -/
  | feed (second : Bool)
  /-- The read timeout of the body a `respLoop` goroutine feeds fires. -/
  | timeout (second : Bool)
  /-- `readLoopRearrange` receives from `frames`. -/
  | rearrange
  /-- The application calls `Read(p)` with `len(p) = n`; `timedOut` is whether the wait
  deadline has fired. -/
  | read (n : Nat) (timedOut : Bool)
  /-- `ClientConn.Close`: the read side and `respCh` close. -/
  | close

/-- What a step shows: an item that reached `respCh`, a frame `readLoopRearrange` took, the
bytes a `Read` handed out, or a fault: a read timeout, a `feedError` from outside, a ping
goroutine's send on the closed `respCh`. -/
inductive Obs where
  | enqueued (n : RespNode)
  | taken (f : Frame)
  | read (bytes : List UInt8)
  | timedOut
  | failed (e : Err)
  | panicked

/-- Whether an observation is a fault. -/
def Obs.fault : Obs → Bool
  | .timedOut | .failed _ | .panicked => true
  | _ => false

/-- A goroutine's send of `f` on `frames`, going on as `next` once it is made.  A send on the
closed `frames` panics, and the goroutine recovers and returns to `respLoop`. -/
def Recv.sendFrame (s : Recv) (i : Bool) (f : Frame) (next : Drainer) :
    Option (Recv × Option Obs) :=
  if s.conn.closed then some (s.setDrainer i .idle, none)
  else if s.frames.length < framesCap then
    some (({ s with frames := s.frames ++ [f] }).setDrainer i next, none)
  else none

/-- One step; `none` when it cannot run (a send on a full channel, a receive on an empty one,
a goroutine that is not at that statement, the write lock held, a frame that is not for this
connection).  A send on the closed `respCh` panics; `sendWriteBuf` recovers and its body is
dropped. -/
def step (t : Tunables) (s : Recv) : Event → Option (Recv × Option Obs)
  | .post body =>
    match s.pending with
    | none => some ({ s with pending := some body }, none)
    | some _ => none
  | .enqueue =>
    match s.pending with
    | some body =>
      if s.respChClosed then some ({ s with pending := none }, none)
      else if s.respCh.length < respChCap then
        some ({ s with pending := none, respCh := s.respCh ++ [.body body] },
          some (.enqueued (.body body)))
      else none
    | none => none
  | .feedError e => some ({ s with conn := s.conn.feedError e }, some (.failed e))
  | .dispatch f =>
    if f.idx = 0 ∨ low32 f.connIdx ≠ s.conn.idx then none
    else if s.conn.closed = false ∧ s.conn.err = none then
      if f.options = optClosed then
        some ({ s with conn := s.conn.feedError errPeerClosed }, some (.failed errPeerClosed))
      else some ({ s with orch := s.orch ++ [f] }, none)
    else some (s, none)
  | .orchSend f =>
    if f ∈ s.orch then
      if s.respChClosed then some ({ s with orch := s.orch.erase f }, some .panicked)
      else if s.respCh.length < respChCap then
        some ({ s with respCh := s.respCh ++ [.frame f], orch := s.orch.erase f },
          some (.enqueued (.frame f)))
      else none
    else none
  | .take i =>
    match s.drainer i, s.respCh with
    | .idle, n :: rest => some (({ s with respCh := rest }).setDrainer i n.start, none)
    | _, _ => none
  | .feed i =>
    match s.drainer i with
    | .feeding expectedCtr count body =>
      let it := feedIter s.conn expectedCtr count body
      some (({ s with conn := it.conn }).setDrainer i it.next, none)
    | .sending expectedCtr count f body =>
      s.sendFrame i f (.feeding expectedCtr (count + f.data.length) body)
    | .single f =>
      some (s.setDrainer i
        (if s.conn.err = none ∧ s.conn.closed = false then feedframe f else .idle), none)
    | .forwarding f => s.sendFrame i f .idle
    | .idle => none
  | .timeout i =>
    if (s.drainer i).feedsBody then
      some (s.setDrainer i (s.drainer i).closeBody, some .timedOut)
    else none
  | .rearrange =>
    if s.running then
      match s.frames with
      | f :: rest =>
        match ReadConn.rearrange t s.conn f with
        | .next c => some ({ s with conn := c, frames := rest }, some (.taken f))
        | .exit c => some ({ s with conn := c, frames := rest, running := false }, some (.taken f))
      | [] => if s.conn.closed then some ({ s with running := false }, none) else none
    else none
  | .read n timedOut =>
    some ({ s with conn := (s.conn.read n timedOut).2 },
      some (.read (s.conn.read n timedOut).1.bytes))
  | .close => some ({ s with conn := s.conn.close, respChClosed := true }, none)

/-! ## What flows -/

/-- The frames of a body before its terminator or its first failed parse. -/
def envFrames : List (Option Frame) → List Frame
  | some f :: body => if f.idx = 0 then [] else f :: envFrames body
  | _ => []

/-- The frames `feedframes` may forward from a body: those before the terminator, but the
checkpoints. -/
def bodyFrames (body : List (Option Frame)) : List Frame := forwarded (envFrames body)

/-- The frames `respLoop` may forward from an item of `respCh`. -/
def RespNode.frames : RespNode → List Frame
  | .body r => bodyFrames r
  | .frame f => forwarded [f]

/-- The frames a goroutine may still forward. -/
def Drainer.rest : Drainer → List Frame
  | .idle => []
  | .feeding _ _ body => bodyFrames body
  | .sending _ _ f body => f :: bodyFrames body
  | .single f => forwarded [f]
  | .forwarding f => [f]

/-- The item an observation shows reaching `respCh`. -/
@[simp] def Obs.enqueuedNode : Obs → Option RespNode
  | .enqueued n => some n
  | _ => none

/-- The frame an observation shows `readLoopRearrange` taking. -/
@[simp] def Obs.takenFrame : Obs → Option Frame
  | .taken f => some f
  | _ => none

/-- The bytes an observation shows a `Read` handing out. -/
@[simp] def Obs.readBytes : Obs → List UInt8
  | .read bytes => bytes
  | _ => []

/-- The items that reached `respCh`. -/
def enqueued (L : List Obs) : List RespNode := L.filterMap Obs.enqueuedNode

/-- The frames `readLoopRearrange` took, in order. -/
def taken (L : List Obs) : List Frame := L.filterMap Obs.takenFrame

/-- The bytes the application read, in order. -/
def reads (L : List Obs) : List UInt8 := L.flatMap Obs.readBytes

@[simp] theorem Recv.setDrainer_conn (s : Recv) (i : Bool) (d : Drainer) :
    (s.setDrainer i d).conn = s.conn := by cases i <;> rfl

@[simp] theorem Recv.setDrainer_running (s : Recv) (i : Bool) (d : Drainer) :
    (s.setDrainer i d).running = s.running := by cases i <;> rfl

@[simp] theorem Recv.setDrainer_pending (s : Recv) (i : Bool) (d : Drainer) :
    (s.setDrainer i d).pending = s.pending := by cases i <;> rfl

@[simp] theorem Recv.setDrainer_respCh (s : Recv) (i : Bool) (d : Drainer) :
    (s.setDrainer i d).respCh = s.respCh := by cases i <;> rfl

@[simp] theorem Recv.setDrainer_respChClosed (s : Recv) (i : Bool) (d : Drainer) :
    (s.setDrainer i d).respChClosed = s.respChClosed := by cases i <;> rfl

@[simp] theorem Recv.setDrainer_frames (s : Recv) (i : Bool) (d : Drainer) :
    (s.setDrainer i d).frames = s.frames := by cases i <;> rfl

@[simp] theorem Recv.setDrainer_orch (s : Recv) (i : Bool) (d : Drainer) :
    (s.setDrainer i d).orch = s.orch := by cases i <;> rfl

theorem Recv.drainer_setDrainer (s : Recv) (i j : Bool) (d : Drainer) :
    (s.setDrainer i d).drainer j = if j = i then d else s.drainer j := by
  cases i <;> cases j <;> rfl

@[simp] theorem enqueued_nil : enqueued [] = [] := rfl

@[simp] theorem taken_nil : taken [] = [] := rfl

@[simp] theorem reads_nil : reads [] = [] := rfl

@[simp] theorem enqueued_cons (o : Obs) (L : List Obs) :
    enqueued (o :: L) = o.enqueuedNode.toList ++ enqueued L := by
  cases o <;> rfl

@[simp] theorem taken_cons (o : Obs) (L : List Obs) :
    taken (o :: L) = o.takenFrame.toList ++ taken L := by
  cases o <;> rfl

@[simp] theorem reads_cons (o : Obs) (L : List Obs) : reads (o :: L) = o.readBytes ++ reads L :=
  List.flatMap_cons _ _ _

@[simp] theorem enqueued_append (L L' : List Obs) :
    enqueued (L ++ L') = enqueued L ++ enqueued L' := List.filterMap_append _ _ _

@[simp] theorem taken_append (L L' : List Obs) : taken (L ++ L') = taken L ++ taken L' :=
  List.filterMap_append _ _ _

@[simp] theorem reads_append (L L' : List Obs) : reads (L ++ L') = reads L ++ reads L' :=
  List.flatMap_append _ _ _

/-- A goroutine starts on an item with all the item may forward still ahead. -/
theorem RespNode.start_rest (n : RespNode) : n.start.rest = n.frames := by
  cases n <;> rfl

/-- `feedframe` leaves its goroutine with the frame still to send, unless it is a
checkpoint. -/
theorem feedframe_rest (f : Frame) : (feedframe f).rest = forwarded [f] := by
  by_cases hs : isSyncCtr f <;> simp [feedframe, hs, forwarded, Drainer.rest]

/-- A goroutine at a send has the frame it sends ahead of what comes after. -/
theorem Drainer.outgoing_rest {d next : Drainer} {f : Frame} (h : d.outgoing = some (f, next)) :
    d.rest = f :: next.rest := by
  cases d <;> simp only [Drainer.outgoing, Option.some.injEq, Prod.mk.injEq, reduceCtorEq] at h
  all_goals obtain ⟨rfl, rfl⟩ := h; rfl

/-! ## One iteration of `feedframes` -/

theorem bodyFrames_cons {f : Frame} (hf : f.idx ≠ 0) (body : List (Option Frame)) :
    bodyFrames (some f :: body) =
      if isSyncCtr f then bodyFrames body else f :: bodyFrames body := by
  by_cases hs : isSyncCtr f <;>
    simp only [bodyFrames, envFrames, if_neg hf, forwarded, List.filter_cons, hs, Bool.not_true,
      Bool.not_false, if_true, if_false, Bool.false_eq_true]

/-- An iteration leaves at most what the body had left to forward. -/
theorem feedIter_sublist (c : ReadConn) (expectedCtr count : Nat) (body : List (Option Frame)) :
    List.Sublist (feedIter c expectedCtr count body).next.rest (bodyFrames body) := by
  match body with
  | [] | none :: _ => simp [feedIter, Drainer.rest]
  | some f :: body =>
    by_cases hf : f.idx = 0
    · simp [feedIter, hf, Drainer.rest]
    rw [bodyFrames_cons hf]
    simp only [feedIter, hf, if_false]
    split
    · simp [Drainer.rest]
    split
    · simp [Drainer.rest]
    split
    · simp [Drainer.rest]
    by_cases hs : isSyncCtr f <;> simp [hs, Drainer.rest]

/-- An iteration of `feedframes` leaves the read side as it is or records an error. -/
theorem feedIter_conn (c : ReadConn) (expectedCtr count : Nat) (body : List (Option Frame)) :
    (feedIter c expectedCtr count body).conn = c ∨
      ∃ e, (feedIter c expectedCtr count body).conn = c.feedError e := by
  match body with
  | [] | none :: _ => exact .inr ⟨_, rfl⟩
  | some f :: body =>
    simp only [feedIter]
    by_cases h0 : f.idx = 0
    · rw [if_pos h0]; exact .inl rfl
    rw [if_neg h0]
    by_cases hu : expectedCtr > 0 ∧ f.idx.toNat ≠ expectedCtr
    · rw [if_pos hu]; exact .inr ⟨_, rfl⟩
    rw [if_neg hu]
    refine .inl ?_
    by_cases hc : c.closed = true
    · rw [if_pos hc]
    rw [if_neg hc]
    rcases c.err with _ | _
    · dsimp only
      split <;> rfl
    · rfl

/-- A body `feedframes` accepts from `expectedCtr` (`feedframes_envelope`): frames with
nonzero indices that pass the checkpoint check, then the terminator. -/
def Envelope (expectedCtr : Nat) (body : List (Option Frame)) : Prop :=
  ∃ fs term rest, body = fs.map some ++ some term :: rest ∧ term.idx = 0 ∧
    (∀ f ∈ fs, f.idx ≠ 0) ∧ syncedFrom expectedCtr fs = true

/-- A goroutine feeding an envelope, or not feeding a body. -/
def Drainer.Enveloped : Drainer → Prop
  | .feeding expectedCtr _ body => Envelope expectedCtr body
  | .sending expectedCtr _ _ body => Envelope expectedCtr body
  | _ => True

/-- An item of `respCh` that is an envelope, if it is a body. -/
def RespNode.Enveloped : RespNode → Prop
  | .body r => Envelope 0 r
  | .frame _ => True

theorem RespNode.Enveloped.start {n : RespNode} (h : n.Enveloped) : n.start.Enveloped := by
  cases n <;> exact h

theorem feedframe_enveloped (f : Frame) : (feedframe f).Enveloped := by
  unfold feedframe; split <;> trivial

/-- Where a send leaves a goroutine that fed an envelope, it still does. -/
theorem Drainer.Enveloped.outgoing {d next : Drainer} {f : Frame} (he : d.Enveloped)
    (h : d.outgoing = some (f, next)) : next.Enveloped := by
  cases d <;> simp only [Drainer.outgoing, Option.some.injEq, Prod.mk.injEq, reduceCtorEq] at h
  all_goals obtain ⟨rfl, rfl⟩ := h; exact he

theorem envFrames_envelope {term : Frame} (ht : term.idx = 0) (rest : List (Option Frame)) :
    ∀ fs : List Frame, (∀ f ∈ fs, f.idx ≠ 0) → envFrames (fs.map some ++ some term :: rest) = fs
  | [], _ => by simp [envFrames, ht]
  | f :: fs, h0 => by
    simp [envFrames, h0 f (List.mem_cons_self _ _),
      envFrames_envelope ht rest fs fun g hg => h0 g (List.mem_cons_of_mem _ hg)]

/-- On a read side with no error, an iteration over an envelope leaves the read side as it
is and the goroutine idle or on the rest of an envelope; while the read side is open it
leaves all the body had to forward. -/
theorem feedIter_envelope {c : ReadConn} (he : c.err = none) {expectedCtr : Nat} (count : Nat)
    {body : List (Option Frame)} (hb : Envelope expectedCtr body) :
    (feedIter c expectedCtr count body).conn = c ∧
      (feedIter c expectedCtr count body).next.Enveloped ∧
      (c.closed = false → (feedIter c expectedCtr count body).next.rest = bodyFrames body) := by
  obtain ⟨fs, term, rest, rfl, ht, h0, hs⟩ := hb
  cases fs with
  | nil => simp [feedIter, ht, Drainer.Enveloped, Drainer.rest, bodyFrames, envFrames, forwarded]
  | cons f fs =>
    have hf : f.idx ≠ 0 := h0 f (List.mem_cons_self _ _)
    have h0' : ∀ g ∈ fs, g.idx ≠ 0 := fun g hg => h0 g (List.mem_cons_of_mem _ hg)
    simp only [syncedFrom, Bool.and_eq_true, Bool.or_eq_true, beq_iff_eq] at hs
    have hck : ¬ (expectedCtr > 0 ∧ f.idx.toNat ≠ expectedCtr) := by omega
    rw [List.map_cons, List.cons_append, bodyFrames_cons hf, bodyFrames,
      envFrames_envelope ht _ _ h0']
    simp only [feedIter, hf, hck, he, if_false]
    cases hc : c.closed
    · by_cases hsc : isSyncCtr f <;>
        simp only [hsc, if_true, if_false, Bool.false_eq_true] at hs <;>
        simpa [hsc, Drainer.Enveloped, Drainer.rest, bodyFrames, envFrames_envelope ht _ _ h0']
          using ⟨fs, term, rest, rfl, ht, h0', hs.2⟩
    · simp [Drainer.Enveloped]

/-! ## What each step does -/

section
variable {t : Tunables} {s s' : Recv} {o : Option Obs}

theorem step_post {body : List (Option Frame)} (h : step t s (.post body) = some (s', o)) :
    s.pending = none ∧ s' = { s with pending := some body } ∧ o = none := by
  simp only [step] at h
  split at h
  · cases h; exact ⟨‹_›, rfl, rfl⟩
  · cases h

theorem step_enqueue (h : step t s .enqueue = some (s', o)) :
    ∃ body, s.pending = some body ∧
      (s.respChClosed = true ∧ s' = { s with pending := none } ∧ o = none ∨
        s.respChClosed = false ∧ s.respCh.length < respChCap ∧
          s' = { s with pending := none, respCh := s.respCh ++ [.body body] } ∧
          o = some (.enqueued (.body body))) := by
  simp only [step] at h
  split at h
  · split at h
    · cases h; exact ⟨_, ‹_›, .inl ⟨‹_›, rfl, rfl⟩⟩
    · split at h
      · cases h; exact ⟨_, ‹_›, .inr ⟨eq_false_of_ne_true ‹_›, ‹_›, rfl, rfl⟩⟩
      · cases h
  · cases h

theorem step_feedError {e : Err} (h : step t s (.feedError e) = some (s', o)) :
    s' = { s with conn := s.conn.feedError e } ∧ o = some (.failed e) := by
  simp only [step, Option.some.injEq, Prod.mk.injEq] at h
  exact ⟨h.1.symm, h.2.symm⟩

/-- A ping goroutine's checks on a frame for this connection: on an open read side without
error, an `optClosed` frame feeds it `errPeerClosed`, any other is kept to be sent; otherwise
the frame is dropped. -/
theorem step_dispatch {f : Frame} (h : step t s (.dispatch f) = some (s', o)) :
    f.idx ≠ 0 ∧ low32 f.connIdx = s.conn.idx ∧
      (s.conn.closed = false ∧ s.conn.err = none ∧
          (f.options = optClosed ∧ s' = { s with conn := s.conn.feedError errPeerClosed } ∧
              o = some (.failed errPeerClosed) ∨
            f.options ≠ optClosed ∧ s' = { s with orch := s.orch ++ [f] } ∧ o = none) ∨
        ¬ (s.conn.closed = false ∧ s.conn.err = none) ∧ s' = s ∧ o = none) := by
  simp only [step] at h
  split at h
  · cases h
  rename_i hg
  refine ⟨fun h0 => hg (.inl h0), not_not.1 fun hk => hg (.inr hk), ?_⟩
  split at h
  · rename_i hc
    split at h <;> cases h
    · exact .inl ⟨hc.1, hc.2, .inl ⟨‹_›, rfl, rfl⟩⟩
    · exact .inl ⟨hc.1, hc.2, .inr ⟨‹_›, rfl, rfl⟩⟩
  · cases h; exact .inr ⟨‹_›, rfl, rfl⟩

/-- A ping goroutine's send on `respCh`: on the closed channel it panics, otherwise the frame
joins `respCh` when there is room. -/
theorem step_orchSend {f : Frame} (h : step t s (.orchSend f) = some (s', o)) :
    f ∈ s.orch ∧
      (s.respChClosed = true ∧ s' = { s with orch := s.orch.erase f } ∧ o = some .panicked ∨
        s.respChClosed = false ∧ s.respCh.length < respChCap ∧
          s' = { s with respCh := s.respCh ++ [.frame f], orch := s.orch.erase f } ∧
          o = some (.enqueued (.frame f))) := by
  simp only [step] at h
  split at h
  · refine ⟨‹_›, ?_⟩
    split at h
    · cases h; exact .inl ⟨‹_›, rfl, rfl⟩
    · split at h
      · cases h; exact .inr ⟨eq_false_of_ne_true ‹_›, ‹_›, rfl, rfl⟩
      · cases h
  · cases h

theorem step_take {i : Bool} (h : step t s (.take i) = some (s', o)) :
    ∃ n rest, s.drainer i = .idle ∧ s.respCh = n :: rest ∧
      s' = ({ s with respCh := rest }).setDrainer i n.start ∧ o = none := by
  simp only [step] at h
  split at h
  · cases h; exact ⟨_, _, ‹_›, ‹_›, rfl, rfl⟩
  · cases h

theorem sendFrame_eq {i : Bool} {f : Frame} {next : Drainer}
    (h : s.sendFrame i f next = some (s', o)) :
    o = none ∧ (s.conn.closed = true ∧ s' = s.setDrainer i .idle ∨
      s.conn.closed = false ∧ s.frames.length < framesCap ∧
        s' = ({ s with frames := s.frames ++ [f] }).setDrainer i next) := by
  simp only [Recv.sendFrame] at h
  split at h
  · cases h; exact ⟨rfl, .inl ⟨‹_›, rfl⟩⟩
  · split at h
    · cases h; exact ⟨rfl, .inr ⟨eq_false_of_ne_true ‹_›, ‹_›, rfl⟩⟩
    · cases h

/-- A goroutine's statement: a `parseframe` of `feedframes` and its checks, the check on a
frame taken from `respCh`, or a send, on an open `frames` with room or on a closed one, which
returns it to `respLoop`. -/
theorem step_feed {i : Bool} (h : step t s (.feed i) = some (s', o)) :
    o = none ∧
      ((∃ expectedCtr count body, s.drainer i = .feeding expectedCtr count body ∧
        s' = ({ s with conn := (feedIter s.conn expectedCtr count body).conn }).setDrainer i
          (feedIter s.conn expectedCtr count body).next) ∨
      (∃ f, s.drainer i = .single f ∧ s' = s.setDrainer i
        (if s.conn.err = none ∧ s.conn.closed = false then feedframe f else .idle)) ∨
      ∃ f next, (s.drainer i).outgoing = some (f, next) ∧
        (s.conn.closed = true ∧ s' = s.setDrainer i .idle ∨
          s.conn.closed = false ∧ s.frames.length < framesCap ∧
            s' = ({ s with frames := s.frames ++ [f] }).setDrainer i next)) := by
  simp only [step] at h
  split at h
  · cases h; exact ⟨rfl, .inl ⟨_, _, _, ‹_›, rfl⟩⟩
  · obtain ⟨ho, hs⟩ := sendFrame_eq h
    exact ⟨ho, .inr (.inr ⟨_, _, by rw [‹s.drainer i = _›]; rfl, hs⟩)⟩
  · cases h; exact ⟨rfl, .inr (.inl ⟨_, ‹_›, rfl⟩)⟩
  · obtain ⟨ho, hs⟩ := sendFrame_eq h
    exact ⟨ho, .inr (.inr ⟨_, _, by rw [‹s.drainer i = _›]; rfl, hs⟩)⟩
  · cases h

theorem step_timeout {i : Bool} (h : step t s (.timeout i) = some (s', o)) :
    (s.drainer i).feedsBody = true ∧ s' = s.setDrainer i (s.drainer i).closeBody ∧
      o = some .timedOut := by
  simp only [step] at h
  split at h
  · cases h; exact ⟨‹_›, rfl, rfl⟩
  · cases h

/-- `readLoopRearrange` takes a frame and runs its loop body on it, or finds `frames` closed
and empty and returns. -/
theorem step_rearrange (h : step t s .rearrange = some (s', o)) :
    s.running = true ∧
      ((∃ f rest c running, s.frames = f :: rest ∧
        (rearrange t s.conn f = .next c ∧ running = true ∨
          rearrange t s.conn f = .exit c ∧ running = false) ∧
        s' = { s with conn := c, frames := rest, running := running } ∧ o = some (.taken f)) ∨
      s.frames = [] ∧ s.conn.closed = true ∧ s' = { s with running := false } ∧ o = none) := by
  simp only [step] at h
  split at h
  · refine ⟨‹_›, ?_⟩
    split at h
    · split at h <;> cases h
      · exact .inl ⟨_, _, _, true, ‹_›, .inl ⟨‹_›, rfl⟩, by cases s; simp_all, rfl⟩
      · exact .inl ⟨_, _, _, false, ‹_›, .inr ⟨‹_›, rfl⟩, rfl, rfl⟩
    · split at h
      · cases h; exact .inr ⟨‹_›, ‹_›, rfl, rfl⟩
      · cases h
  · cases h

theorem step_read {n : Nat} {timedOut : Bool} (h : step t s (.read n timedOut) = some (s', o)) :
    s' = { s with conn := (s.conn.read n timedOut).2 } ∧
      o = some (.read (s.conn.read n timedOut).1.bytes) := by
  simp only [step, Option.some.injEq, Prod.mk.injEq] at h
  exact ⟨h.1.symm, h.2.symm⟩

theorem step_close (h : step t s .close = some (s', o)) :
    s' = { s with conn := s.conn.close, respChClosed := true } ∧ o = none := by
  simp only [step, Option.some.injEq, Prod.mk.injEq] at h
  exact ⟨h.1.symm, h.2.symm⟩

end

/-! ## One goroutine alone -/

/-- `feedLoop` only appends to the frames it was given. -/
theorem feedLoop_sent (c : ReadConn) (body : List (Option Frame)) :
    ∀ (expectedCtr count : Nat) (sent : List Frame),
      (c.feedLoop expectedCtr count sent body).conn = (c.feedLoop expectedCtr count [] body).conn ∧
      (c.feedLoop expectedCtr count sent body).sent =
        sent ++ (c.feedLoop expectedCtr count [] body).sent := by
  induction body with
  | nil => simp [feedLoop]
  | cons o body ih =>
    intro expectedCtr count sent
    cases o with
    | none => simp [feedLoop]
    | some f =>
      by_cases hf : f.idx = 0
      · simp [feedLoop, hf]
      by_cases hck : expectedCtr > 0 ∧ f.idx.toNat ≠ expectedCtr
      · simp [feedLoop, hf, hck]
      by_cases hc : c.closed
      · simp [feedLoop, hf, hck, hc]
      cases he : c.err with
      | some e => simp [feedLoop, hf, hck, hc, he]
      | none =>
        by_cases hs : isSyncCtr f
        · simpa [feedLoop, hf, hck, hc, he, hs] using ih _ _ sent
        · simp only [feedLoop, hf, hck, hc, he, hs, if_false, Bool.false_eq_true, List.nil_append]
          rw [(ih _ _ (sent ++ [f])).2, (ih _ _ [f]).2, List.append_assoc]
          exact ⟨(ih _ _ _).1.trans (ih _ _ _).1.symm, rfl⟩

/-- One iteration against the whole loop: `feedLoop` stops where the iteration leaves the
goroutine in `respLoop`, and otherwise goes on from where the iteration, and its send if it
makes one, leave it. -/
theorem feedLoop_feedIter (c : ReadConn) (expectedCtr count : Nat) (o : Option Frame)
    (body : List (Option Frame)) :
    match (feedIter c expectedCtr count (o :: body)).next with
    | .idle =>
      (c.feedLoop expectedCtr count [] (o :: body)).conn =
          (feedIter c expectedCtr count (o :: body)).conn ∧
        (c.feedLoop expectedCtr count [] (o :: body)).sent = []
    | .feeding expectedCtr' count' body' =>
      body' = body ∧ (feedIter c expectedCtr count (o :: body)).conn = c ∧
        c.feedLoop expectedCtr count [] (o :: body) = c.feedLoop expectedCtr' count' [] body
    | .sending expectedCtr' count' f body' =>
      body' = body ∧ (feedIter c expectedCtr count (o :: body)).conn = c ∧ c.closed = false ∧
        c.feedLoop expectedCtr count [] (o :: body) =
          c.feedLoop expectedCtr' (count' + f.data.length) [f] body
    | .single _ | .forwarding _ => False := by
  cases o with
  | none => simp [feedIter, feedLoop]
  | some f =>
    by_cases hf : f.idx = 0
    · simp [feedIter, feedLoop, hf]
    by_cases hck : expectedCtr > 0 ∧ f.idx.toNat ≠ expectedCtr
    · simp [feedIter, feedLoop, hf, hck]
    by_cases hc : c.closed
    · simp [feedIter, feedLoop, hf, hck, hc]
    cases he : c.err with
    | some e => simp [feedIter, feedLoop, hf, hck, hc, he]
    | none => by_cases hs : isSyncCtr f <;> simp [feedIter, feedLoop, hf, hck, hc, he, hs]

theorem step_feed_eq {t : Tunables} {s : Recv} {i : Bool} {expectedCtr count : Nat}
    {body : List (Option Frame)} (hd : s.drainer i = .feeding expectedCtr count body) :
    step t s (.feed i) = some (({ s with
      conn := (feedIter s.conn expectedCtr count body).conn }).setDrainer i
      (feedIter s.conn expectedCtr count body).next, none) := by
  simp only [step, hd]

theorem step_send_eq {t : Tunables} {s : Recv} {i : Bool} {expectedCtr count : Nat} {f : Frame}
    {body : List (Option Frame)} (hd : s.drainer i = .sending expectedCtr count f body)
    (hc : s.conn.closed = false) (hcap : s.frames.length < framesCap) :
    step t s (.feed i) = some (({ s with frames := s.frames ++ [f] }).setDrainer i
      (.feeding expectedCtr (count + f.data.length) body), none) := by
  simp only [step, hd, Recv.sendFrame, hc, hcap, if_true, if_false, Bool.false_eq_true]

/-- **The interleaved model refines `feedframes`.**  A goroutine whose statements of
`feedframes` run with nothing in between, and with room on `frames` for what it sends, returns
to `respLoop` with the read side and the frames sent that the whole-loop model `feedLoop`
gives. -/
theorem feed_alone (t : Tunables) (i : Bool) (body : List (Option Frame)) :
    ∀ (s : Recv) (expectedCtr count : Nat), s.drainer i = .feeding expectedCtr count body →
      s.frames.length + body.length ≤ framesCap →
      ∃ k, runSteps (step t) s (List.replicate k (.feed i)) =
        some (({ s with
          conn := (s.conn.feedLoop expectedCtr count [] body).conn
          frames := s.frames ++ (s.conn.feedLoop expectedCtr count [] body).sent }).setDrainer i
          .idle, []) := by
  induction body with
  | nil =>
    intro s expectedCtr count hd _
    exact ⟨1, by simp [runSteps, step, hd, feedIter, feedLoop]⟩
  | cons o body ih =>
    intro s expectedCtr count hd hcap
    have hs := step_feed_eq (t := t) hd
    have key := feedLoop_feedIter s.conn expectedCtr count o body
    revert hs key
    cases hnext : (feedIter s.conn expectedCtr count (o :: body)).next with
    | idle =>
      rintro hs ⟨hc, hsent⟩
      exact ⟨1, runSteps_cons.2 ⟨_, none, [], hs, by simp [runSteps, hc, hsent], rfl⟩⟩
    | feeding expectedCtr' count' body' =>
      rintro hs ⟨rfl, hc, hloop⟩
      obtain ⟨k, hk⟩ := ih
        (({ s with conn := (feedIter s.conn expectedCtr count (o :: body')).conn }).setDrainer i
          (.feeding expectedCtr' count' body'))
        expectedCtr' count' (by simp [Recv.drainer_setDrainer]) (by simp at hcap ⊢; omega)
      refine ⟨k + 1, runSteps_cons.2 ⟨_, none, [], hs, ?_, rfl⟩⟩
      rw [hk, hloop]
      cases i <;> simp [Recv.setDrainer, hc]
    | single _ | forwarding _ => exact fun _ key => key.elim
    | sending expectedCtr' count' f body' =>
      rintro hs ⟨rfl, hc, hclosed, hloop⟩
      set s₁ := ({ s with conn := (feedIter s.conn expectedCtr count (o :: body')).conn }).setDrainer
        i (.sending expectedCtr' count' f body')
      have hd₁ : s₁.drainer i = .sending expectedCtr' count' f body' := by
        simp [s₁, Recv.drainer_setDrainer]
      have hsend := step_send_eq (t := t) hd₁ (by simp [s₁, hc, hclosed])
        (by simp [s₁] at hcap ⊢; omega)
      obtain ⟨k, hk⟩ := ih
        (({ s₁ with frames := s₁.frames ++ [f] }).setDrainer i
          (.feeding expectedCtr' (count' + f.data.length) body'))
        expectedCtr' (count' + f.data.length) (by simp [Recv.drainer_setDrainer])
        (by simp [s₁] at hcap ⊢; omega)
      refine ⟨k + 2, runSteps_cons.2 ⟨_, none, [], hs, runSteps_cons.2 ⟨_, none, [], hsend, ?_,
        rfl⟩, rfl⟩⟩
      rw [hk, hloop, (feedLoop_sent s.conn body' _ _ [f]).1, (feedLoop_sent s.conn body' _ _ [f]).2]
      cases i <;> simp [s₁, Recv.setDrainer, hc]

theorem feed_alone_one_frame :
    ((Recv.init 7 []).setDrainer false
      (.feeding 0 0 [some ⟨1, 7, 0, [1]⟩, some ⟨0, 7, 0, []⟩])).drainer false =
        .feeding 0 0 [some ⟨1, 7, 0, [1]⟩, some ⟨0, 7, 0, []⟩] ∧
    (Recv.init 7 []).frames.length + 2 ≤ framesCap ∧
    ∃ k, runSteps (step Tunables.default)
      ((Recv.init 7 []).setDrainer false (.feeding 0 0 [some ⟨1, 7, 0, [1]⟩, some ⟨0, 7, 0, []⟩]))
      (List.replicate k (.feed false)) =
        some (({ (Recv.init 7 []) with
          conn :=
            ((newReadConn 7 []).feedLoop 0 0 [] [some ⟨1, 7, 0, [1]⟩, some ⟨0, 7, 0, []⟩]).conn
          frames :=
            ((newReadConn 7 []).feedLoop 0 0 [] [some ⟨1, 7, 0, [1]⟩, some ⟨0, 7, 0, []⟩]).sent
          }).setDrainer false .idle, []) :=
  ⟨rfl, by decide, feed_alone Tunables.default false _ _ 0 0 rfl (by decide)⟩

end Toh.RespLoop

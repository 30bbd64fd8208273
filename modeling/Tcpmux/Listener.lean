import Tcpmux.Run

/-!
# Closing a listener (listen.go)

`Listener.Close` sends `"accept on closed listener"` on `httpServeErr`, a channel with room for
one error, and blocks while it is full; `Accept` returns the error or a pending connection,
whichever is ready, and blocks while neither is; the goroutine `Listen` starts sends the error
`http.Serve` returns, blocking while the channel is full.  `step` interleaves these with the
handlers pushing connections onto `pendingConns`.

Nothing makes the error sticky: every error `Accept` returns is one of those sent, taken off
the channel in order, and the channel holds what was sent and not yet taken
(`listener_accept_errors`).  So a second `Close` blocks until an `Accept` takes the first
error, and once the `Close` errors and the serve error are taken, an `Accept` that finds no
pending connection blocks until another `Close` (`listener_wedges`).
-/

namespace Toh.Listen

/-- The goroutine `Listen` starts: in `http.Serve`, returned with an error, or past its send. -/
inductive Serve where
  | serving
  | returned (e : Err)
  | sent
  deriving DecidableEq, Repr

/-- The capacity of `pendingConns`. -/
def pendingCap : Nat := 1024

/-- A listener's channels and the serve goroutine, with every error sent on `httpServeErr` so
far and the number of `Close` calls that returned. -/
structure Listener where
  /-- The buffer of `httpServeErr`. -/
  slot : List Err
  slot_le : slot.length ≤ 1
  /-- The connections waiting in `pendingConns`. -/
  pending : Nat
  /-- `l.closed` -/
  closed : Bool
  serve : Serve
  sent : List Err
  closes : Nat
  deriving DecidableEq

/-- `Listen` returned. -/
def Listener.init : Listener := ⟨[], Nat.zero_le _, 0, false, .serving, [], 0⟩

/-- What an `Accept` returns. -/
inductive Accepted where
  | conn
  | err (e : Err)
  deriving DecidableEq, Repr

/-- Lets `simp` settle `IsEmpty Accepted` side goals at once. -/
instance : Nonempty Accepted := ⟨.conn⟩

/-- The error an `Accept` returned, if it did. -/
def Accepted.err? : Accepted → Option Err
  | .conn => none
  | .err e => some e

/-- One atomic step of one goroutine. -/
inductive Event where
  /-- A `Close` call: its send on `httpServeErr`, then `l.closed = true` and `l.ln.Close()`. -/
  | close
  /-- `http.Serve` returns `e`. -/
  | serveReturn (e : Err)
  /-- The serve goroutine's send on `httpServeErr`. -/
  | serveSend
  /-- Modelled from the spec: `l.handler`, which `Listen` registers for "/" (listen.go:63), is
  not in the snapshot; the spec (§4.6) says an `optHello` request creates a `ServerConn` and
  pushes it onto `pendingConns`, dropping it when full. -/
  | handler
  /-- An `Accept` takes the error from `httpServeErr`. -/
  | acceptErr
  /-- An `Accept` takes a pending connection. -/
  | acceptConn
  deriving DecidableEq, Repr

/-! ## Algorithm -/

/-- A send of `e` on `httpServeErr`: refused (the sender blocks) while the channel is full. -/
def Listener.put (l : Listener) (e : Err) : Option Listener :=
  match h : l.slot with
  | [] => some { l with slot := [e], slot_le := by simp, sent := l.sent ++ [e] }
  | _ :: _ => none

def step (l : Listener) : Event → Option (Listener × Option Accepted)
  | .close =>
    (l.put errAcceptOnClosedListener).map fun l =>
      ({ l with closed := true, closes := l.closes + 1 }, none)
  | .serveReturn e =>
    match l.serve with
    | .serving => some ({ l with serve := .returned e }, none)
    | _ => none
  | .serveSend =>
    match l.serve with
    | .returned e => (l.put e).map fun l => ({ l with serve := .sent }, none)
    | _ => none
  | .handler =>
    some ({ l with pending := if l.pending < pendingCap then l.pending + 1 else l.pending }, none)
  | .acceptErr =>
    match l.slot with
    | e :: _ => some ({ l with slot := [], slot_le := by simp }, some (.err e))
    | [] => none
  | .acceptConn =>
    if 0 < l.pending then some ({ l with pending := l.pending - 1 }, some .conn) else none

/-! ## Lemmas -/

theorem put_eq_some {l l' : Listener} {e : Err} (h : l.put e = some l') :
    l.slot = [] ∧ l'.slot = [e] ∧ l'.sent = l.sent ++ [e] ∧ l'.serve = l.serve ∧
      l'.closes = l.closes := by
  unfold Listener.put at h
  split at h
  · cases h; exact ⟨‹_›, rfl, rfl, rfl, rfl⟩
  · cases h

/-- `httpServeErr` holds at most one error. -/
theorem Listener.slot_cons {l : Listener} {x : Err} {rest : List Err} (h : l.slot = x :: rest) :
    rest = [] :=
  List.length_eq_zero.1 (by have := l.slot_le; rw [h] at this; simpa using this)

/-- The errors taken and the one waiting are those sent, in order; the sends are one per
`Close` that returned and the serve goroutine's one. -/
structure Inv (l : Listener) (R : List Accepted) : Prop where
  fifo : R.filterMap Accepted.err? ++ l.slot = l.sent
  sent_length : l.sent.length = l.closes + (if l.serve = .sent then 1 else 0)

/-- Whatever a step emits, `Accept` took it off `httpServeErr` or off `pendingConns`. -/
theorem Inv.step {l l' : Listener} {R : List Accepted} {o : Option Accepted} (h : Inv l R)
    (e : Event) (hs : step l e = some (l', o)) : Inv l' (R ++ o.toList) := by
  cases e with
  | close =>
    simp only [Listen.step, Option.map_eq_some'] at hs
    obtain ⟨l₁, hp, hl⟩ := hs
    cases hl
    obtain ⟨h0, h1, h2, h3, h4⟩ := put_eq_some hp
    refine ⟨?_, ?_⟩
    · simp [h1, h2, ← h.fifo, h0]
    · simp only [h2, h3, h4, List.length_append, h.sent_length, List.length_singleton]; omega
  | serveReturn x =>
    simp only [Listen.step] at hs
    split at hs
    · cases hs
      exact ⟨by simpa using h.fifo, by simpa [*] using h.sent_length⟩
    · cases hs
  | serveSend =>
    simp only [Listen.step] at hs
    split at hs
    · rename_i x hx
      simp only [Option.map_eq_some'] at hs
      obtain ⟨l₁, hp, hl⟩ := hs
      cases hl
      obtain ⟨h0, h1, h2, h3, h4⟩ := put_eq_some hp
      refine ⟨?_, ?_⟩
      · simp [h1, h2, ← h.fifo, h0]
      · simp only [h2, h4, List.length_append, h.sent_length, hx, List.length_singleton]; simp
    · cases hs
  | handler => cases hs; exact ⟨by simpa using h.fifo, h.sent_length⟩
  | acceptErr =>
    simp only [Listen.step] at hs
    split at hs
    · rename_i x rest hx
      cases hs
      have hr := Listener.slot_cons hx
      exact ⟨by simp [Accepted.err?, ← h.fifo, hx, hr], h.sent_length⟩
    · cases hs
  | acceptConn =>
    simp only [Listen.step] at hs
    split at hs
    · cases hs; exact ⟨by simpa [Accepted.err?] using h.fifo, h.sent_length⟩
    · cases hs

/-- Without a `Close`, once the serve goroutine has sent its error, a step sends no error:
`Accept` can only take what is already waiting. -/
theorem step_no_close {l l' : Listener} {o : Option Accepted} {e : Event}
    (hs : step l e = some (l', o)) (he : e ≠ .close) (hsent : l.serve = .sent) :
    l'.serve = .sent ∧ o.toList.filterMap Accepted.err? ++ l'.slot = l.slot := by
  cases e with
  | close => exact absurd rfl he
  | serveReturn x => simp [step, hsent] at hs
  | serveSend => simp [step, hsent] at hs
  | handler => cases hs; exact ⟨hsent, rfl⟩
  | acceptErr =>
    simp only [step] at hs
    split at hs
    · rename_i x rest hx
      cases hs
      have hr := Listener.slot_cons hx
      exact ⟨hsent, by simp [Accepted.err?, hx, hr]⟩
    · cases hs
  | acceptConn =>
    simp only [step] at hs
    split at hs
    · cases hs; exact ⟨hsent, by simp [Accepted.err?]⟩
    · cases hs

theorem runSteps_no_close {l l' : Listener} {R : List Accepted} (hsent : l.serve = .sent)
    (es : List Event) (hr : runSteps step l es = some (l', R)) (he : Event.close ∉ es) :
    R.filterMap Accepted.err? ++ l'.slot = l.slot := by
  induction es generalizing l R with
  | nil =>
    simp only [runSteps, Option.some.injEq, Prod.mk.injEq] at hr
    obtain ⟨rfl, rfl⟩ := hr
    rfl
  | cons e es ih =>
    obtain ⟨l₁, o, R₁, hs, hr₁, rfl⟩ := runSteps_cons.1 hr
    obtain ⟨hs₁, hsl⟩ := step_no_close hs (fun h => he (h ▸ List.mem_cons_self _ _)) hsent
    have ih' := ih hs₁ hr₁ fun h => he (List.mem_cons_of_mem _ h)
    rw [List.filterMap_append, List.append_assoc, ih', hsl]

/-! ## Close and Accept -/

/-- In every run: a `Close` blocks exactly while `httpServeErr` holds an error; the errors
`Accept` returned, followed by the one waiting, are the errors sent, in order, one per `Close`
that returned and one from the serve goroutine; and once the serve goroutine has sent, a run
with no further `Close` lets `Accept` return only the error already waiting. -/
theorem listener_accept_errors {l : Listener} {R : List Accepted}
    (h : Reachable step .init l R) :
    (step l .close = none ↔ l.slot ≠ []) ∧
    R.filterMap Accepted.err? ++ l.slot = l.sent ∧
    l.sent.length = l.closes + (if l.serve = .sent then 1 else 0) ∧
    (l.serve = .sent → ∀ es l' R', runSteps step l es = some (l', R') → Event.close ∉ es →
      R'.filterMap Accepted.err? ++ l'.slot = l.slot) := by
  have hi : Inv l R := h.inv ⟨rfl, rfl⟩ fun _ _ e _ _ hi hs => hi.step e hs
  refine ⟨?_, hi.fifo, hi.sent_length, fun hs es l' R' hr he => runSteps_no_close hs es hr he⟩
  simp only [step, Listener.put, Option.map_eq_none']
  split <;> simp_all

theorem listener_accept_errors_after_close :
    Reachable step .init ⟨[errAcceptOnClosedListener], by simp, 0, true, .serving,
      [errAcceptOnClosedListener], 1⟩ [] ∧
    (step ⟨[errAcceptOnClosedListener], by simp, 0, true, .serving, [errAcceptOnClosedListener], 1⟩
      .close = none ↔ [errAcceptOnClosedListener] ≠ []) := by
  have h : Reachable step .init ⟨[errAcceptOnClosedListener], by simp, 0, true, .serving,
      [errAcceptOnClosedListener], 1⟩ [] := Reachable.init.runSteps [.close] (by decide)
  exact ⟨h, (listener_accept_errors h).1⟩

/-- After a `Close`, a second `Close` blocks.  After a `Close`, the serve goroutine's return and
two `Accept`s, which take the `Close` error and then the serve error, an `Accept` finds neither
an error nor a connection, and no run without a further `Close` brings it an error. -/
theorem listener_wedges :
    let served : Err := ⟨"accept tcp [::]:10001: use of closed network connection"⟩
    Reachable step .init ⟨[errAcceptOnClosedListener], by simp, 0, true, .serving,
      [errAcceptOnClosedListener], 1⟩ [] ∧
    step ⟨[errAcceptOnClosedListener], by simp, 0, true, .serving, [errAcceptOnClosedListener], 1⟩
      .close = none ∧
    Reachable step .init ⟨[], by simp, 0, true, .sent, [errAcceptOnClosedListener, served], 1⟩
      [.err errAcceptOnClosedListener, .err served] ∧
    step ⟨[], by simp, 0, true, .sent, [errAcceptOnClosedListener, served], 1⟩ .acceptErr = none ∧
    step ⟨[], by simp, 0, true, .sent, [errAcceptOnClosedListener, served], 1⟩ .acceptConn = none ∧
    ∀ es l' R', runSteps step ⟨[], by simp, 0, true, .sent, [errAcceptOnClosedListener, served], 1⟩
      es = some (l', R') → Event.close ∉ es → R'.filterMap Accepted.err? = [] ∧ l'.slot = [] := by
  intro served
  refine ⟨Reachable.init.runSteps [.close] (by decide), by decide,
    Reachable.init.runSteps [.close, .serveReturn served, .acceptErr, .serveSend, .acceptErr]
      (by decide), by decide, by decide, fun es l' R' hr he => ?_⟩
  simpa using runSteps_no_close rfl es hr he

end Toh.Listen

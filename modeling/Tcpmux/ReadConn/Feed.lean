import Tcpmux.ReadConn.Basic

/-!
# Envelope ingestion: `feedframes`

`feedframes` reads the frames of one response body with `parseframe` until the `idx = 0`
terminator, checks counter checkpoints (`optSyncCtr`) and sends the other frames on
`frames`.  A body is the list of what successive `parseframe` calls return: `none` for a
failed parse, and an exhausted body fails to parse.

On an open, error-free read side (`feedframes_envelope`): a body made of frames `fs` and a
terminator is accepted exactly when `syncedFrom 0 fs`, i.e. once a checkpoint `k` has been
seen every later frame carries `idx = k`, since `expectedCtr` is never advanced.  Then every
frame of `fs` but the checkpoints is forwarded, an `optSyncConnIdx` frame included, and
`feedframes` returns their payload size; any other body records an error and returns 0
(`feedframes_fails`).  The spec's grammar (`countedFrom`), in which the frames after a
checkpoint `k` carry `k, k + 1, …`, is therefore not what the code accepts
(`feedframes_rejects_counted_run`).
-/

namespace Toh

namespace ReadConn

/-! ## Algorithm -/

/-- What `feedframes` leaves: the read side, the frames it sent on `frames` in order, and
its results `(datalen, err)`. -/
structure Fed where
  conn : ReadConn
  sent : List Frame
  datalen : Nat
  err : Option Err

/-- Whether a frame is a counter checkpoint: `f.options&optSyncCtr > 0`. -/
def isSyncCtr (f : Frame) : Bool := f.options &&& optSyncCtr > 0

/-- The `for` loop of `feedframes`, from `expectedCtr`, `count` and the frames sent so far. -/
def feedLoop (c : ReadConn) : Nat → Nat → List Frame → List (Option Frame) → Fed
  | _, _, sent, [] => ⟨c.feedError errInvalidFrames, sent, 0, some errInvalidFrames⟩
  | _, _, sent, none :: _ => ⟨c.feedError errInvalidFrames, sent, 0, some errInvalidFrames⟩
  | expectedCtr, count, sent, some f :: body =>
    if f.idx = 0 then ⟨c, sent, count, none⟩
    else if expectedCtr > 0 ∧ f.idx.toNat ≠ expectedCtr then
      ⟨c.feedError errUnsyncedCounter, sent, 0, some errUnsyncedCounter⟩
    else if c.closed then ⟨c, sent, 0, some errClosedConn⟩
    else match c.err with
      | some e => ⟨c, sent, 0, some e⟩
      | none =>
        if isSyncCtr f then feedLoop c f.idx.toNat count sent body
        else feedLoop c expectedCtr (count + f.data.length) (sent ++ [f]) body

/-- `feedframes(r)` on a body whose `parseframe` results are `body`. -/
def feedframes (c : ReadConn) (body : List (Option Frame)) : Fed := feedLoop c 0 0 [] body

/-! ## The grammar the code checks -/

/-- What `feedframes` checks of the frames before the terminator: once a checkpoint has set
`expectedCtr` to `k > 0`, every later frame carries `idx = k`. -/
def syncedFrom : Nat → List Frame → Bool
  | _, [] => true
  | expectedCtr, f :: fs =>
    (expectedCtr == 0 || f.idx.toNat == expectedCtr) &&
      syncedFrom (if isSyncCtr f then f.idx.toNat else expectedCtr) fs

/-- The frames `feedframes` forwards: all but the checkpoints. -/
def forwarded (fs : List Frame) : List Frame := fs.filter fun f => !isSyncCtr f

/-- Payload bytes of a list of frames. -/
def dataLength (fs : List Frame) : Nat := (fs.map fun f => f.data.length).sum

/-! ## The grammar of the spec -/

/-- Whether a frame carries payload: neither a checkpoint nor a connection-index declaration. -/
def isPayload (f : Frame) : Bool :=
  f.options &&& optSyncCtr == 0 && f.options &&& optSyncConnIdx == 0

/-- The spec's envelope grammar: after a checkpoint `k`, the payload frames carry `k`,
`k + 1`, `k + 2`, …; control frames are not counted. -/
def countedFrom : Option Nat → List Frame → Bool
  | _, [] => true
  | next, f :: fs =>
    if isSyncCtr f then countedFrom (some f.idx.toNat) fs
    else if !isPayload f then countedFrom next fs
    else match next with
      | none => countedFrom none fs
      | some k => f.idx.toNat == k && countedFrom (some (k + 1)) fs

/-! ## What `feedframes` does -/

section
variable {c : ReadConn} (hc : c.closed = false) (he : c.err = none)
include hc he

theorem feedLoop_envelope {term : Frame} (ht : term.idx = 0) (rest : List (Option Frame)) :
    ∀ (fs : List Frame) (expectedCtr count : Nat) (sent : List Frame), (∀ f ∈ fs, f.idx ≠ 0) →
      syncedFrom expectedCtr fs = true →
      c.feedLoop expectedCtr count sent (fs.map some ++ some term :: rest) =
        ⟨c, sent ++ forwarded fs, count + dataLength (forwarded fs), none⟩ := by
  intro fs
  induction fs with
  | nil => intro _ count sent _ _; simp [feedLoop, ht, forwarded, dataLength]
  | cons f fs ih =>
    intro expectedCtr count sent h0 hs
    have hf0 : f.idx ≠ 0 := h0 f (List.mem_cons_self _ _)
    have h0' : ∀ g ∈ fs, g.idx ≠ 0 := fun g hg => h0 g (List.mem_cons_of_mem _ hg)
    simp only [syncedFrom, Bool.and_eq_true, Bool.or_eq_true, beq_iff_eq] at hs
    have hck : ¬ (expectedCtr > 0 ∧ f.idx.toNat ≠ expectedCtr) := by omega
    rw [List.map_cons, List.cons_append, feedLoop]
    simp only [hf0, hck, hc, he, if_false, Bool.false_eq_true]
    by_cases hs' : isSyncCtr f
    · simp only [hs', if_true] at hs ⊢
      rw [ih _ _ _ h0' hs.2]
      simp [forwarded, hs']
    · simp only [hs', if_false, Bool.false_eq_true] at hs ⊢
      rw [ih _ _ _ h0' hs.2]
      simp [forwarded, dataLength, hs', Nat.add_assoc]

theorem feedLoop_unsynced (rest : List (Option Frame)) :
    ∀ (fs : List Frame) (expectedCtr count : Nat) (sent : List Frame), (∀ f ∈ fs, f.idx ≠ 0) →
      syncedFrom expectedCtr fs = false →
      (c.feedLoop expectedCtr count sent (fs.map some ++ rest)).conn =
          c.feedError errUnsyncedCounter ∧
        (c.feedLoop expectedCtr count sent (fs.map some ++ rest)).datalen = 0 ∧
        (c.feedLoop expectedCtr count sent (fs.map some ++ rest)).err =
          some errUnsyncedCounter := by
  intro fs
  induction fs with
  | nil => intro _ _ _ _ hs; simp [syncedFrom] at hs
  | cons f fs ih =>
    intro expectedCtr count sent h0 hs
    have hf0 : f.idx ≠ 0 := h0 f (List.mem_cons_self _ _)
    have h0' : ∀ g ∈ fs, g.idx ≠ 0 := fun g hg => h0 g (List.mem_cons_of_mem _ hg)
    rw [List.map_cons, List.cons_append, feedLoop]
    simp only [hf0, if_false]
    by_cases hck : expectedCtr > 0 ∧ f.idx.toNat ≠ expectedCtr
    · simp [hck]
    · have hfirst : (expectedCtr == 0 || f.idx.toNat == expectedCtr) = true := by
        simp only [Bool.or_eq_true, beq_iff_eq]; omega
      simp only [syncedFrom, hfirst, Bool.true_and] at hs
      simp only [hck, hc, he, if_false, Bool.false_eq_true]
      by_cases hs' : isSyncCtr f
      · simp only [hs', if_true] at hs ⊢
        exact ih _ _ _ h0' hs
      · simp only [hs', if_false, Bool.false_eq_true] at hs ⊢
        exact ih _ _ _ h0' hs

theorem feedLoop_fails (tl : List (Option Frame)) (htl : tl = [] ∨ ∃ rest, tl = none :: rest) :
    ∀ (fs : List Frame) (expectedCtr count : Nat) (sent : List Frame), (∀ f ∈ fs, f.idx ≠ 0) →
      (c.feedLoop expectedCtr count sent (fs.map some ++ tl)).datalen = 0 ∧
        ∃ e, (c.feedLoop expectedCtr count sent (fs.map some ++ tl)).err = some e ∧
          (c.feedLoop expectedCtr count sent (fs.map some ++ tl)).conn = c.feedError e := by
  intro fs
  induction fs with
  | nil => rcases htl with rfl | ⟨rest, rfl⟩ <;> simp [feedLoop]
  | cons f fs ih =>
    intro expectedCtr count sent h0
    have hf0 : f.idx ≠ 0 := h0 f (List.mem_cons_self _ _)
    have h0' : ∀ g ∈ fs, g.idx ≠ 0 := fun g hg => h0 g (List.mem_cons_of_mem _ hg)
    rw [List.map_cons, List.cons_append, feedLoop]
    simp only [hf0, if_false, hc, he, Bool.false_eq_true]
    split
    · simp
    · split
      · exact ih _ _ _ h0'
      · exact ih _ _ _ h0'

/-- `feedframes` on an open, error-free read side, for a body whose frames `fs` reach a
terminator: it accepts exactly when `syncedFrom 0 fs`, and then forwards every frame but the
checkpoints and returns their payload size; otherwise it records "un-synced counter" and
returns 0. -/
theorem feedframes_envelope {fs : List Frame} (h0 : ∀ f ∈ fs, f.idx ≠ 0) {term : Frame}
    (ht : term.idx = 0) (rest : List (Option Frame)) :
    (syncedFrom 0 fs = true →
      c.feedframes (fs.map some ++ some term :: rest) =
        ⟨c, forwarded fs, dataLength (forwarded fs), none⟩) ∧
    (syncedFrom 0 fs = false →
      (c.feedframes (fs.map some ++ some term :: rest)).conn = c.feedError errUnsyncedCounter ∧
      (c.feedframes (fs.map some ++ some term :: rest)).datalen = 0 ∧
      (c.feedframes (fs.map some ++ some term :: rest)).err = some errUnsyncedCounter) :=
  ⟨fun hs => by simpa using feedLoop_envelope hc he ht rest fs 0 0 [] h0 hs,
   fun hs => feedLoop_unsynced hc he (some term :: rest) fs 0 0 [] h0 hs⟩

/-- A body that fails to parse before its terminator leaves an error on the read side and
`feedframes` returns 0. -/
theorem feedframes_fails {fs : List Frame} (h0 : ∀ f ∈ fs, f.idx ≠ 0) (tl : List (Option Frame))
    (htl : tl = [] ∨ ∃ rest, tl = none :: rest) :
    (c.feedframes (fs.map some ++ tl)).datalen = 0 ∧
      ∃ e, (c.feedframes (fs.map some ++ tl)).err = some e ∧
        (c.feedframes (fs.map some ++ tl)).conn = c.feedError e :=
  feedLoop_fails hc he tl htl fs 0 0 [] h0

end

theorem feedframes_envelope_checkpoint :
    (newReadConn (low32 7) []).closed = false ∧ (newReadConn (low32 7) []).err = none ∧
    (∀ f ∈ [(⟨5, 7, optSyncCtr, []⟩ : Frame), ⟨5, 7, 0, [97]⟩], f.idx ≠ 0) ∧
    (⟨0, 7, 0, []⟩ : Frame).idx = 0 ∧
    (syncedFrom 0 [⟨5, 7, optSyncCtr, []⟩, ⟨5, 7, 0, [97]⟩] = true →
      (newReadConn (low32 7) []).feedframes
        ([(⟨5, 7, optSyncCtr, []⟩ : Frame), ⟨5, 7, 0, [97]⟩].map some ++ [some ⟨0, 7, 0, []⟩]) =
        ⟨newReadConn (low32 7) [], forwarded [⟨5, 7, optSyncCtr, []⟩, ⟨5, 7, 0, [97]⟩],
          dataLength (forwarded [⟨5, 7, optSyncCtr, []⟩, ⟨5, 7, 0, [97]⟩]), none⟩) :=
  ⟨rfl, rfl, by decide, rfl, (feedframes_envelope rfl rfl (by decide) rfl []).1⟩

theorem feedframes_fails_truncated :
    (newReadConn (low32 7) []).closed = false ∧ (newReadConn (low32 7) []).err = none ∧
    (∀ f ∈ [(⟨1, 7, 0, [97]⟩ : Frame)], f.idx ≠ 0) ∧
    (([] : List (Option Frame)) = [] ∨ ∃ rest, ([] : List (Option Frame)) = none :: rest) ∧
    ((newReadConn (low32 7) []).feedframes ([(⟨1, 7, 0, [97]⟩ : Frame)].map some ++ [])).datalen =
      0 :=
  ⟨rfl, rfl, by decide, .inl rfl, (feedframes_fails rfl rfl (by decide) [] (.inl rfl)).1⟩

/-! ## Where ingestion departs from the spec's grammar -/

/-- Two envelopes of the spec's grammar: `feedframes` rejects checkpoint 5 followed by frames
5 and 6, and forwards the `optSyncConnIdx` frame of the other. -/
theorem feedframes_rejects_counted_run :
    countedFrom none [⟨5, 7, optSyncCtr, []⟩, ⟨5, 7, 0, [97]⟩, ⟨6, 7, 0, [98]⟩] = true ∧
    (feedframes (newReadConn (low32 7) [])
      [some ⟨5, 7, optSyncCtr, []⟩, some ⟨5, 7, 0, [97]⟩, some ⟨6, 7, 0, [98]⟩,
        some ⟨0, 7, 0, []⟩]).err = some errUnsyncedCounter ∧
    (feedframes (newReadConn (low32 7) [])
      [some ⟨5, 7, optSyncCtr, []⟩, some ⟨5, 7, 0, [97]⟩, some ⟨6, 7, 0, [98]⟩,
        some ⟨0, 7, 0, []⟩]).datalen = 0 ∧
    countedFrom none [⟨9, 7, optSyncConnIdx, []⟩, ⟨1, 7, 0, [97]⟩] = true ∧
    (feedframes (newReadConn (low32 7) [])
      [some ⟨9, 7, optSyncConnIdx, []⟩, some ⟨1, 7, 0, [97]⟩, some ⟨0, 7, 0, []⟩]).sent =
      [⟨9, 7, optSyncConnIdx, []⟩, ⟨1, 7, 0, [97]⟩] := by
  decide

end ReadConn

end Toh

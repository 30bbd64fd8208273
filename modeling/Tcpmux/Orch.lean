import Tcpmux.ClientConn.Basic
import Tcpmux.Run

/-!
# The orchestrator (orch.go)

One cycle of the orchestrator goroutine: the connections `orchSendWriteBuf` submitted during
the 50 ms window are filed in `conns`, a `map[uint32]*ClientConn` keyed by the low 32 bits of
`idx` (`collect`); the `range conns` loop, in whatever order Go's map iteration takes,
hands each connection with buffered bytes to `sendWriteBuf` and lists the `idx` of every
other one, 8 bytes big-endian, in a ping payload (`batch`); the ping is POSTed through the
last idle connection (`pingPost`), and each frame of its response goes to `conns[f.connIdx]`
(`dispatch`).  The ping goroutine's checks and sends on `respCh`, which `dispatch` takes as
done, are steps of their own in the receive path of one connection (`Tcpmux.RespLoop.Basic`).

In every cycle the last submission of a low 32 bits wins its slot, the ping goes to the last
idle connection visited, and every frame goes to a connection whose index agrees with its
`connIdx` in the low 32 bits; when the submitted indices differ in their low 32 bits, every
submitted connection is handled exactly once and each frame goes to the connection its
`connIdx` names (`orchestrator_cycle`).  Every submitted connection is handed off exactly once,
directly or through a window (`orchSendWriteBuf_handoff`).
Two indices that agree in their low 32 bits share a slot: the first connection is never
handled and receives nothing, the second receives the frames of both; and the ping of a
cycle goes to one endpoint, under one key, whatever the endpoints of the connections it
lists (`orchestrator_misdirects`).
-/

namespace Toh

/-! ## Submission -/

/-- The capacity of `orch`. -/
def orchCap : Nat := 256

/-- The `orch` channel, the window the orchestrator is collecting, and every connection
submitted so far. -/
structure Orch where
  queue : List ClientConn
  queue_le : queue.length ≤ orchCap
  window : List ClientConn
  submitted : List ClientConn

def Orch.init : Orch := ⟨[], Nat.zero_le _, [], []⟩

/-- Where a submitted connection goes: straight to `sendWriteBuf`, or into a window of the
orchestrator, which goes on to one cycle. -/
inductive Handoff where
  | direct (c : ClientConn)
  | window (subs : List ClientConn)

def Handoff.conns : Handoff → List ClientConn
  | .direct c => [c]
  | .window subs => subs

/-- `orchSendWriteBuf(c)`: queue `c` on `orch`, or, when it is full, `go c.sendWriteBuf()`. -/
def orchSendWriteBuf (o : Orch) (c : ClientConn) : Orch × Option Handoff :=
  if h : o.queue.length < orchCap then
    ({ o with
      queue := o.queue ++ [c]
      queue_le := by simpa using h }, none)
  else (o, some (.direct c))

/-- A submission, the orchestrator's `c := <-orch` (`conns[c.idx] = c`), or the end of its
50 ms window. -/
inductive OrchEvent where
  | submit (c : ClientConn)
  | receive
  | timeout

/-- One step; a submission also records the connection submitted. -/
def orchStep (o : Orch) : OrchEvent → Option (Orch × Option Handoff)
  | .submit c =>
    let r := orchSendWriteBuf o c
    some ({ r.1 with submitted := o.submitted ++ [c] }, r.2)
  | .receive =>
    match h : o.queue with
    | c :: q => some ({ o with
        queue := q
        queue_le := by have := o.queue_le; rw [h, List.length_cons] at this; omega
        window := o.window ++ [c] }, none)
    | [] => none
  | .timeout => some ({ o with window := [] }, some (.window o.window))

/-- Every submitted connection is handed off once, directly or in one window, or is still in
the window or the channel. -/
theorem orchSendWriteBuf_handoff {o : Orch} {L : List Handoff}
    (h : Reachable orchStep Orch.init o L) :
    (L.flatMap Handoff.conns ++ o.window ++ o.queue).Perm o.submitted := by
  refine h.inv (P := fun o L => (L.flatMap Handoff.conns ++ o.window ++ o.queue).Perm o.submitted)
    (.refl _) fun o L e o' out hp hs => ?_
  cases e with
  | submit c =>
    simp only [orchStep, orchSendWriteBuf, Option.some.injEq] at hs
    split at hs <;> cases hs
    · simpa [← List.append_assoc] using hp.append_right [c]
    · simp only [List.flatMap_append, List.flatMap_cons, List.flatMap_nil, Handoff.conns,
        List.append_nil, List.append_assoc, List.singleton_append] at hp ⊢
      exact List.perm_middle.trans ((hp.cons c).trans (List.perm_append_singleton c _).symm)
  | receive =>
    simp only [orchStep] at hs
    split at hs
    · rename_i c q hq
      cases hs
      simpa [hq] using hp
    · cases hs
  | timeout =>
    simp only [orchStep, Option.some.injEq] at hs
    cases hs
    simpa [Handoff.conns] using hp

theorem orchSendWriteBuf_handoff_one :
    Reachable orchStep Orch.init
      ⟨[ClientConn.newClientConn "http://127.0.0.1:20001/" (cipherKey "tcp") 1], by decide, [],
        [ClientConn.newClientConn "http://127.0.0.1:20001/" (cipherKey "tcp") 1]⟩ [] ∧
    ((([] : List Handoff).flatMap Handoff.conns ++ [] ++
        [ClientConn.newClientConn "http://127.0.0.1:20001/" (cipherKey "tcp") 1]).Perm
      [ClientConn.newClientConn "http://127.0.0.1:20001/" (cipherKey "tcp") 1]) := by
  have hs : orchStep Orch.init
      (.submit (ClientConn.newClientConn "http://127.0.0.1:20001/" (cipherKey "tcp") 1)) =
      some (⟨[ClientConn.newClientConn "http://127.0.0.1:20001/" (cipherKey "tcp") 1], by decide,
        [], [ClientConn.newClientConn "http://127.0.0.1:20001/" (cipherKey "tcp") 1]⟩, none) :=
    rfl
  have h := Reachable.step _ Reachable.init hs
  exact ⟨h, orchSendWriteBuf_handoff h⟩

/-! ## Ping payload -/

/-- `binary.Write(&p, binary.BigEndian, idx)` for a `uint64`: `BigEndian.PutUint64`. -/
def putUint64 (v : UInt64) : List UInt8 :=
  [(v >>> 56).toUInt8, (v >>> 48).toUInt8, (v >>> 40).toUInt8, (v >>> 32).toUInt8,
    (v >>> 24).toUInt8, (v >>> 16).toUInt8, (v >>> 8).toUInt8, v.toUInt8]

/-- The number 8 big-endian bytes stand for (`BigEndian.Uint64`). -/
def getUint64 (b : List UInt8) : UInt64 :=
  .ofNat (b.foldl (fun acc x => acc * 256 + x.toNat) 0)

/-- The indices a ping payload lists, 8 bytes each. -/
def pingIdxs : List UInt8 → List UInt64
  | b0 :: b1 :: b2 :: b3 :: b4 :: b5 :: b6 :: b7 :: rest =>
    getUint64 [b0, b1, b2, b3, b4, b5, b6, b7] :: pingIdxs rest
  | _ => []

theorem UInt64.toNat_toUInt8 (v : UInt64) : v.toUInt8.toNat = v.toNat % 256 := by
  simp [UInt64.toUInt8, UInt8.toNat, UInt8.ofNat, Fin.ofNat]

theorem UInt64.toNat_shiftRight (v s : UInt64) :
    (v >>> s).toNat = v.toNat / 2 ^ (s.toNat % 64) := by
  show (v.toBitVec >>> (UInt64.mod s 64).toBitVec.toNat).toNat = _
  rw [BitVec.toNat_ushiftRight, Nat.shiftRight_eq_div_pow]
  rfl

/-- One more big-endian digit. -/
theorem div_pow_mul_add (x k : Nat) : x / 2 ^ (k + 8) * 256 + x / 2 ^ k % 256 = x / 2 ^ k := by
  rw [pow_add, ← Nat.div_div_eq_div_mul]; exact Nat.div_add_mod' _ _

theorem getUint64_putUint64 (v : UInt64) : getUint64 (putUint64 v) = v := by
  apply UInt64.toNat.inj
  have h : v.toNat / 2 ^ 56 % 256 = v.toNat / 2 ^ 56 :=
    Nat.mod_eq_of_lt (Nat.div_lt_of_lt_mul (by simpa using v.toNat_lt))
  simp only [getUint64, putUint64, List.foldl, UInt64.toNat_toUInt8, UInt64.toNat_shiftRight,
    UInt64.toNat_ofNat, UInt64.size, Nat.reduceMod, zero_mul, zero_add, h]
  rw [div_pow_mul_add _ 48, div_pow_mul_add _ 40, div_pow_mul_add _ 32, div_pow_mul_add _ 24,
    div_pow_mul_add _ 16, div_pow_mul_add _ 8, show (2 : ℕ) ^ 8 = 256 from rfl, Nat.div_add_mod']
  exact UInt64.toNat_ofNat_of_lt v.toNat_lt

/-- A ping payload lists exactly the indices written into it, in order. -/
theorem pingIdxs_flatMap_putUint64 (xs : List UInt64) : pingIdxs (xs.flatMap putUint64) = xs := by
  induction xs with
  | nil => rfl
  | cons x xs ih =>
    calc pingIdxs ((x :: xs).flatMap putUint64)
        = getUint64 (putUint64 x) :: pingIdxs (xs.flatMap putUint64) := rfl
      _ = x :: xs := by rw [getUint64_putUint64, ih]

/-! ## The map of one cycle -/

/-- `conns`, the orchestrator's `map[uint32]*ClientConn` of one cycle: its values, at most one
per low 32 bits of `idx`. -/
structure Conns where
  vals : List ClientConn
  nodup : (vals.map fun c => low32 c.idx).Nodup

namespace Conns

def empty : Conns := ⟨[], List.nodup_nil⟩

/-- `conns[c.idx] = c`. -/
def insert (m : Conns) (c : ClientConn) : Conns :=
  ⟨c :: m.vals.filter (fun d => low32 d.idx ≠ low32 c.idx), by
    refine List.nodup_cons.2 ⟨?_, m.nodup.sublist ((List.filter_sublist _).map _)⟩
    simp⟩

/-- `conns[k]`. -/
def get (m : Conns) (k : UInt32) : Option ClientConn := m.vals.find? fun c => low32 c.idx = k

theorem get_some {m : Conns} {k : UInt32} {c : ClientConn} (h : m.get k = some c) :
    c ∈ m.vals ∧ low32 c.idx = k :=
  ⟨List.mem_of_find?_eq_some h, by simpa using List.find?_some h⟩

theorem mem_insert {m : Conns} {c d : ClientConn} (h : d ∈ (m.insert c).vals) :
    d = c ∨ d ∈ m.vals := by
  simp only [insert, List.mem_cons, List.mem_filter] at h
  exact h.imp_right And.left

/-- After `conns[c.idx] = c`, every slot that held a connection still holds one. -/
theorem insert_keys (m : Conns) (c : ClientConn) :
    ∀ d ∈ c :: m.vals, ∃ d' ∈ (m.insert c).vals, low32 d'.idx = low32 d.idx := by
  intro d hd
  by_cases hk : low32 d.idx = low32 c.idx
  · exact ⟨c, List.mem_cons_self _ _, hk.symm⟩
  · refine ⟨d, ?_, rfl⟩
    rcases List.mem_cons.1 hd with rfl | hd
    · exact absurd rfl hk
    · exact List.mem_cons_of_mem _ (List.mem_filter.2 ⟨hd, by simpa using hk⟩)

/-- `conns[k]` after `conns[c.idx] = c`. -/
theorem get_insert (m : Conns) (c : ClientConn) (k : UInt32) :
    (m.insert c).get k = if low32 c.idx = k then some c else m.get k := by
  simp only [get, insert, List.find?_cons]
  by_cases hk : low32 c.idx = k
  · simp [hk]
  · simp only [hk, decide_False, if_false]
    rw [List.find?_filter]
    congr 1
    funext d
    by_cases hd : low32 d.idx = k
    · simp [hd, Ne.symm hk]
    · simp [hd]

end Conns

/-- The collection window: `conns[c.idx] = c` for every connection received from `orch`, in
the order received. -/
def collect (subs : List ClientConn) : Conns := subs.foldl Conns.insert .empty

theorem collect_vals_subset (subs : List ClientConn) : ∀ d ∈ (collect subs).vals, d ∈ subs := by
  suffices ∀ m : Conns, ∀ d ∈ (subs.foldl Conns.insert m).vals, d ∈ m.vals ∨ d ∈ subs by
    intro d hd
    simpa [Conns.empty] using this .empty d hd
  induction subs with
  | nil => exact fun m d hd => .inl hd
  | cons c subs ih =>
    intro m d hd
    rcases ih _ d hd with hd | hd
    · rcases Conns.mem_insert hd with rfl | hd
      · exact .inr (List.mem_cons_self _ _)
      · exact .inl hd
    · exact .inr (List.mem_cons_of_mem _ hd)

/-- The last submission wins: the slot of `k` holds the last connection received whose index
has low 32 bits `k`. -/
theorem collect_get (subs : List ClientConn) (k : UInt32) :
    (collect subs).get k = (subs.filter fun c => low32 c.idx = k).getLast? := by
  suffices ∀ m : Conns, (subs.foldl Conns.insert m).get k =
      (subs.filter fun c => low32 c.idx = k).getLast?.or (m.get k) by
    simpa [collect, Conns.empty, Conns.get] using this .empty
  induction subs with
  | nil => simp
  | cons c subs ih =>
    intro m
    rw [List.foldl_cons, ih, Conns.get_insert, List.filter_cons]
    by_cases hk : low32 c.idx = k
    · simp only [hk, decide_True, if_true]
      rw [List.getLast?_cons]
      cases (subs.filter fun c => low32 c.idx = k).getLast? <;> rfl
    · simp [hk]

/-- Every submitted connection's slot is filled at the end of the window. -/
theorem collect_keys (subs : List ClientConn) :
    ∀ c ∈ subs, ∃ d ∈ (collect subs).vals, low32 d.idx = low32 c.idx := by
  suffices ∀ m : Conns, ∀ c ∈ m.vals ++ subs,
      ∃ d ∈ (subs.foldl Conns.insert m).vals, low32 d.idx = low32 c.idx from
    fun c hc => this .empty c (by simpa [Conns.empty] using hc)
  induction subs with
  | nil => exact fun m c hc => ⟨c, by simpa using hc, rfl⟩
  | cons s subs ih =>
    intro m c hc
    obtain ⟨c', hc', hk⟩ : ∃ c' ∈ (m.insert s).vals ++ subs, low32 c'.idx = low32 c.idx := by
      rcases (show c ∈ s :: m.vals ∨ c ∈ subs by simp at hc ⊢; tauto) with hc | hc
      · obtain ⟨d, hd, hk⟩ := Conns.insert_keys m s c hc
        exact ⟨d, List.mem_append_left _ hd, hk⟩
      · exact ⟨c, List.mem_append_right _ hc, rfl⟩
    obtain ⟨d, hd, hk'⟩ := ih (m.insert s) c' hc'
    exact ⟨d, hd, hk'.trans hk⟩

/-- Under distinct low 32 bits, the indices the map holds are the submitted ones, once each. -/
theorem collect_idxs_perm (subs : List ClientConn)
    (hkey : ∀ a ∈ subs, ∀ b ∈ subs, low32 a.idx = low32 b.idx → a.idx = b.idx) :
    ((collect subs).vals.map ClientConn.idx).Perm (subs.map ClientConn.idx).dedup := by
  have hn : ((collect subs).vals.map ClientConn.idx).Nodup :=
    .of_map low32 (by rw [List.map_map]; exact (collect subs).nodup)
  refine (List.perm_ext_iff_of_nodup hn (List.nodup_dedup _)).2 fun x => ?_
  simp only [List.mem_dedup, List.mem_map]
  constructor
  · rintro ⟨d, hd, rfl⟩
    exact ⟨d, collect_vals_subset subs d hd, rfl⟩
  · rintro ⟨c, hc, rfl⟩
    obtain ⟨d, hd, hk⟩ := collect_keys subs c hc
    exact ⟨d, hd, hkey d (collect_vals_subset subs d hd) c hc hk⟩

/-! ## The `range conns` loop -/

/-- What the `range conns` loop leaves: the ping payload `p`, `lastconn`, and the connections
handed to `go conn.sendWriteBuf()`, in turn. -/
structure Batch where
  p : List UInt8
  lastconn : Option ClientConn
  direct : List ClientConn

/-- One turn of the loop. -/
def Batch.add (b : Batch) (conn : ClientConn) : Batch :=
  if conn.write.buf.length > 0 then { b with direct := b.direct ++ [conn] }
  else { b with p := b.p ++ putUint64 conn.idx, lastconn := some conn }

/-- The loop, visiting the map's connections in the order `order`. -/
def batch (order : List ClientConn) : Batch := order.foldl Batch.add ⟨[], none, []⟩

/-- The ping frame `{options: optPing, data: p}`. -/
def pingFrame (p : List UInt8) : Frame := ⟨0, 0, optPing, p⟩

/-- `lastconn.send(pingframe)`, made when some connection was idle. -/
def pingPost (b : Batch) : Option Post :=
  b.lastconn.map fun lc => ⟨lc.endpoint, lc.read.blk, [pingFrame b.p]⟩

theorem batch_foldl (order : List ClientConn) (b : Batch) :
    order.foldl Batch.add b =
      ⟨b.p ++ ((order.filter fun c => !decide (c.write.buf.length > 0)).map
          ClientConn.idx).flatMap putUint64,
        ((order.filter fun c => !decide (c.write.buf.length > 0)).getLast?).or b.lastconn,
        b.direct ++ order.filter fun c => decide (c.write.buf.length > 0)⟩ := by
  induction order generalizing b with
  | nil => simp
  | cons c order ih =>
    rw [List.foldl_cons, ih]
    by_cases hc : c.write.buf.length > 0
    · simp [Batch.add, hc]
    · have hl : ∀ l : List ClientConn, (c :: l).getLast? = l.getLast?.or (some c) :=
        fun l => List.getLast?_append (l := [c])
      simp only [Batch.add, hc, ↓reduceIte, List.filter_cons, decide_False, Bool.not_false,
        List.map_cons, List.flatMap_cons, List.append_assoc, hl]
      cases (order.filter fun c => !decide (c.write.buf.length > 0)).getLast? <;> rfl

/-- The loop hands every connection with buffered bytes to `sendWriteBuf` and lists the
`idx` of every other one in the ping, each in turn; `lastconn` is the last idle one. -/
theorem batch_eq (order : List ClientConn) :
    batch order =
      ⟨((order.filter fun c => !decide (c.write.buf.length > 0)).map ClientConn.idx).flatMap
          putUint64,
        (order.filter fun c => !decide (c.write.buf.length > 0)).getLast?,
        order.filter fun c => decide (c.write.buf.length > 0)⟩ := by
  simp [batch, batch_foldl]

/-! ## Dispatch of the ping response -/

/-- A frame of the ping response handed to the connection with index `target`: enqueued on
its `respCh`, or, an `optClosed` frame, closing it. -/
structure Routed where
  target : UInt64
  f : Frame

/-- What the dispatch loop leaves: the connections as it left them, the frames it handed out,
and the `optClosed` POSTs of the connections it closed. -/
structure Dispatched where
  conns : Conns
  routed : List Routed
  posts : List Post

/-- The dispatch loop over the frames `parseframe` reads from the ping response (`none`: it
failed). -/
def dispatch (conns : Conns) : List (Option Frame) → Dispatched
  | [] | none :: _ => ⟨conns, [], []⟩
  | some f :: rest =>
    if f.idx = 0 then ⟨conns, [], []⟩
    else match conns.get (low32 f.connIdx) with
      | some c =>
        if !c.read.closed && c.read.err.isNone then
          if f.options = optClosed then
            let x := ({ c with read := c.read.feedError errPeerClosed }).close
            let d := dispatch (conns.insert x.1) rest
            ⟨d.conns, ⟨c.idx, f⟩ :: d.routed, x.2 ++ d.posts⟩
          else
            let d := dispatch conns rest
            ⟨d.conns, ⟨c.idx, f⟩ :: d.routed, d.posts⟩
        else dispatch conns rest
      | none => dispatch conns rest

/-- Every frame goes to a connection of the map whose slot its `connIdx` selects. -/
theorem dispatch_routed (S : List UInt64) (conns : Conns) (hS : ∀ d ∈ conns.vals, d.idx ∈ S)
    (body : List (Option Frame)) :
    ∀ r ∈ (dispatch conns body).routed, r.target ∈ S ∧ low32 r.target = low32 r.f.connIdx := by
  induction body generalizing conns with
  | nil => simp [dispatch]
  | cons o body ih =>
    rcases o with _ | f
    · simp [dispatch]
    · simp only [dispatch]
      split
      · simp
      · split
        · rename_i c hg
          obtain ⟨hc, hk⟩ := Conns.get_some hg
          split
          · split
            · intro r hr
              rcases List.mem_cons.1 hr with rfl | hr
              · exact ⟨hS c hc, hk⟩
              · refine ih _ (fun d hd => ?_) r hr
                rcases Conns.mem_insert hd with rfl | hd
                · simpa using hS c hc
                · exact hS d hd
            · intro r hr
              rcases List.mem_cons.1 hr with rfl | hr
              · exact ⟨hS c hc, hk⟩
              · exact ih _ hS r hr
          · exact ih _ hS
        · exact ih _ hS

/-! ## One cycle -/

/-- One cycle, the loop visiting the map in the order `order`, `resp` being the frames of the
ping response (none when the POST failed). -/
structure Cycle where
  direct : List ClientConn
  ping : Option Post
  dispatched : Dispatched

def cycle (order : List ClientConn) (conns : Conns) (resp : List (Option Frame)) : Cycle :=
  let b := batch order
  ⟨b.direct, pingPost b, if b.lastconn.isSome then dispatch conns resp else ⟨conns, [], []⟩⟩

/-- One cycle from the connections `subs` received, the loop visiting the map in any order:
`conns` files each connection under the low 32 bits of its index, the last submission
winning; the connections with buffered bytes go to `sendWriteBuf` and the idle ones are
listed, 8 bytes each, in one ping POSTed to the endpoint, under the key, of the last idle
connection visited; and every frame of its response goes to a submitted connection whose
index agrees with the frame's `connIdx` in the low 32 bits.  When the submitted indices differ
in their low 32 bits, each submitted index is handled exactly once, and a frame whose
`connIdx` names a submitted connection goes to that one. -/
theorem orchestrator_cycle (subs order : List ClientConn) (resp : List (Option Frame))
    (horder : order.Perm (collect subs).vals) :
    (∀ k, (collect subs).get k = (subs.filter fun c => low32 c.idx = k).getLast?) ∧
    (cycle order (collect subs) resp).direct =
      order.filter (fun d => decide (d.write.buf.length > 0)) ∧
    (cycle order (collect subs) resp).ping =
      (order.filter fun d => !decide (d.write.buf.length > 0)).getLast?.map (fun lc =>
        ⟨lc.endpoint, lc.read.blk, [pingFrame
          (((order.filter fun d => !decide (d.write.buf.length > 0)).map ClientConn.idx).flatMap
            putUint64)]⟩) ∧
    pingIdxs (((order.filter fun d => !decide (d.write.buf.length > 0)).map ClientConn.idx).flatMap
      putUint64) = (order.filter fun d => !decide (d.write.buf.length > 0)).map ClientConn.idx ∧
    (∀ r ∈ (cycle order (collect subs) resp).dispatched.routed,
      r.target ∈ subs.map ClientConn.idx ∧ low32 r.target = low32 r.f.connIdx) ∧
    ((∀ a ∈ subs, ∀ b ∈ subs, low32 a.idx = low32 b.idx → a.idx = b.idx) →
      ((cycle order (collect subs) resp).direct.map ClientConn.idx ++
        (order.filter fun d => !decide (d.write.buf.length > 0)).map ClientConn.idx).Perm
        (subs.map ClientConn.idx).dedup ∧
      ∀ r ∈ (cycle order (collect subs) resp).dispatched.routed,
        r.f.connIdx ∈ subs.map ClientConn.idx → r.target = r.f.connIdx) := by
  have hb := batch_eq order
  have hd : (cycle order (collect subs) resp).direct = _ := congrArg Batch.direct hb
  have hrouted : ∀ r ∈ (cycle order (collect subs) resp).dispatched.routed,
      r.target ∈ subs.map ClientConn.idx ∧ low32 r.target = low32 r.f.connIdx := by
    intro r hr
    have hsub : ∀ d ∈ (collect subs).vals, d.idx ∈ subs.map ClientConn.idx :=
      fun d hd => List.mem_map_of_mem _ (collect_vals_subset subs d hd)
    have hr' : r ∈ (dispatch (collect subs) resp).routed := by
      simp only [cycle] at hr
      split at hr
      · exact hr
      · simp at hr
    exact dispatch_routed _ _ hsub resp r hr'
  refine ⟨collect_get subs, hd, by simp only [cycle, pingPost, hb, Option.map_map],
    pingIdxs_flatMap_putUint64 _, hrouted, fun hkey => ⟨?_, fun r hr h3 => ?_⟩⟩
  · rw [hd, ← List.map_append]
    exact ((List.filter_append_perm _ order).map _).trans
      ((horder.map _).trans (collect_idxs_perm subs hkey))
  · obtain ⟨h1, h2⟩ := hrouted r hr
    obtain ⟨a, ha, hat⟩ := List.mem_map.1 h1
    obtain ⟨b, hb', hbt⟩ := List.mem_map.1 h3
    rw [← hat, ← hbt] at h2 ⊢
    exact hkey a ha b hb' h2

theorem orchestrator_cycle_two_conns :
    let subs := [ClientConn.newClientConn "http://127.0.0.1:20001/" (cipherKey "tcp") 1,
      { ClientConn.newClientConn "http://127.0.0.1:20001/" (cipherKey "tcp") 2 with
        write := ⟨0, [104], 1, false⟩ }]
    (∀ a ∈ subs, ∀ b ∈ subs, low32 a.idx = low32 b.idx → a.idx = b.idx) ∧
    ((cycle (collect subs).vals (collect subs) []).direct.map ClientConn.idx ++
      ((collect subs).vals.filter fun d => !decide (d.write.buf.length > 0)).map
        ClientConn.idx).Perm (subs.map ClientConn.idx).dedup := by
  intro subs
  have hkey : ∀ a ∈ subs, ∀ b ∈ subs, low32 a.idx = low32 b.idx → a.idx = b.idx := by decide
  exact ⟨hkey, ((orchestrator_cycle subs _ [] (.refl _)).2.2.2.2.2 hkey).1⟩

/-- Two connections whose indices agree in their low 32 bits share a slot: the first is never
handled, and a frame addressed to it goes to the second.  Two idle connections to different
endpoints are pinged in one POST, to the endpoint and under the key of the one visited last. -/
theorem orchestrator_misdirects :
    (let subs := [ClientConn.newClientConn "http://127.0.0.1:20001/" (cipherKey "tcp") 1,
       ClientConn.newClientConn "http://127.0.0.1:20001/" (cipherKey "tcp") (2 ^ 32 + 1)]
     (collect subs).vals.map ClientConn.idx = [2 ^ 32 + 1] ∧
     ((cycle (collect subs).vals (collect subs) [some ⟨1, 1, 0, [120]⟩]).dispatched.routed.map
       fun r => (r.target, r.f)) = [(2 ^ 32 + 1, ⟨1, 1, 0, [120]⟩)]) ∧
    (let subs := [ClientConn.newClientConn "http://10.0.0.1:20001/" (cipherKey "tcp") 1,
       ClientConn.newClientConn "http://10.0.0.2:20001/" (cipherKey "udp") 2]
     (collect subs).vals.map (fun c => (c.idx, c.endpoint)) =
       [(2, "http://10.0.0.2:20001/"), (1, "http://10.0.0.1:20001/")] ∧
     (cycle (collect subs).vals (collect subs) []).ping.map (fun p => (p.endpoint, p.blk)) =
       some ("http://10.0.0.1:20001/", cipherKey "tcp") ∧
     (cycle (collect subs).vals (collect subs) []).ping.map
       (fun p => p.frames.map fun f => pingIdxs f.data) = some [[2, 1]] ∧
     cipherKey "tcp" ≠ cipherKey "udp") := by
  decide

end Toh

import Tcpmux.ClientConn.Conservation
import Tcpmux.ReadConn.Distinct

/-!
# From `Write` to the peer's read side

The write side of a `ClientConn` and the `readConn` of its peer, put together.  The payload
frames the client's successful POSTs deliver are numbered `1, 2, …` and name the connection
(`reach_connIdx`).  Taken by the peer's `readLoopRearrange` in any order, each once, before
the counter wraps and within `MaxWriteBufferSize`, they leave in the peer's `buf` the bytes of
every `Write`, in the order the appends took the lock, short of those still in the client's
`write.buf` (`write_read_stream`).
-/

namespace Toh

/-- Every frame a connection delivers names it. -/
theorem reach_connIdx {t : Tunables} {s : Sys} {A : List UInt8} {F : List Frame}
    (h : Reach t s A F) : ∀ f ∈ F, f.connIdx = s.conn.idx := by
  induction h with
  | init => simp
  | @step s A F e _ ih =>
    intro f hf
    rw [(Sys.step_ids t s e).1]
    rcases List.mem_append.1 hf with hf | hf
    · exact ih f hf
    · rcases Sys.step_write t s e with ⟨-, hs, -⟩ | ⟨p, -, hp, -, hs, -⟩ <;> rw [hs] at hf
      · cases hf
      · obtain ⟨r, rfl⟩ := (reach_conserved ‹_›).locked p hp
        obtain rfl := List.mem_singleton.1 hf
        rfl

namespace ReadConn

/-- The payload of frame `k` of a list numbered `1, 2, …`. -/
def framePayload (F : List Frame) (k : Nat) : List UInt8 := (F[k - 1]?.map Frame.data).getD []

theorem stream_framePayload (F : List Frame) :
    ∀ n ≤ F.length, stream (framePayload F) n = ((F.take n).map Frame.data).flatten := by
  intro n
  induction n with
  | zero => simp [stream]
  | succ n ih =>
    intro hn
    have hlt : n < F.length := hn
    rw [stream, ih hlt.le, List.take_succ, List.getElem?_eq_getElem hlt]
    simp only [framePayload, Nat.add_sub_cancel, List.getElem?_eq_getElem hlt, Option.map_some',
      Option.getD_some, Option.toList_some, List.map_append, List.map_cons, List.map_nil,
      List.flatten_append, List.flatten_cons, List.flatten_nil, List.append_nil]

end ReadConn

/-- The bytes of the `Write`s reach the peer: every frame a step delivers is the payload frame
of the one POST that step makes, and when the peer's read side takes the frames a connection
delivered, in any order, each once, before the counter wraps and within
`MaxWriteBufferSize`, it takes them all, its counter is their number, and its `buf` followed
by the client's `write.buf` is every byte the `Write`s appended, in order. -/
theorem write_read_stream {t t' : Tunables} {s : Sys} {A : List UInt8} {F : List Frame}
    (h : Reach t s A F) (hwrap : F.length < 2 ^ 32) (blk : List UInt8) (P : List Frame)
    (hP : P.Perm F) (hsz : ReadConn.dataLength F ≤ t'.maxWriteBufferSize) :
    (∀ e f, (s.step t e).2.sent = some f →
      ∃ p, (s.step t e).2.posts = [p] ∧ p.frames.getLast? = some f) ∧
    (ReadConn.readLoop t' (.newReadConn (low32 s.conn.idx) blk) P).2 = [] ∧
    (ReadConn.readLoop t' (.newReadConn (low32 s.conn.idx) blk) P).1.counter = F.length ∧
    (ReadConn.readLoop t' (.newReadConn (low32 s.conn.idx) blk) P).1.buf ++ s.conn.write.buf =
      A := by
  have hc := reach_conserved h
  have hnum : F.map (fun f => f.idx.toNat) = (List.range F.length).map (· + 1) := by
    rw [hc.numbered]
    refine List.map_congr_left fun k hk => Nat.mod_eq_of_lt ?_
    have := List.mem_range.1 hk
    omega
  have hmem : ∀ x, x ∈ P.map (fun f => f.idx.toNat) ↔ 1 ≤ x ∧ x ≤ F.length := by
    intro x
    rw [(hP.map _).mem_iff, hnum, List.mem_map]
    simp only [List.mem_range]
    constructor
    · rintro ⟨k, hk, rfl⟩; omega
    · intro hx; exact ⟨x - 1, by omega, by omega⟩
  have hf : ∀ f ∈ P, low32 f.connIdx = low32 s.conn.idx ∧ 0 < f.idx.toNat ∧
      f.data = ReadConn.framePayload F f.idx.toNat := by
    intro f hf
    obtain ⟨k, hk, rfl⟩ := List.getElem_of_mem (hP.subset hf)
    have hidx := hc.idx_eq hk (by omega)
    refine ⟨by rw [reach_connIdx h _ (List.getElem_mem hk)], by rw [hidx]; omega, ?_⟩
    simp [ReadConn.framePayload, hidx, List.getElem?_eq_getElem hk]
  have hnd : (P.map fun f => f.idx.toNat).Nodup := by
    rw [(hP.map _).nodup_iff, hnum]
    exact (List.nodup_range _).map fun a b h => Nat.succ_injective h
  have hsz' : ReadConn.dataLength P ≤ t'.maxWriteBufferSize := by
    rwa [ReadConn.dataLength, (hP.map _).sum_eq]
  obtain ⟨h1, hcons, ht, hr⟩ := ReadConn.readLoop_newReadConn t' _ _ blk P hf hnd hsz'
  obtain ⟨hpre, hnot⟩ := hcons.counter_run ht
  have hn : (ReadConn.readLoop t' (.newReadConn (low32 s.conn.idx) blk) P).1.counter =
      F.length := by
    apply le_antisymm
    · by_contra hgt
      have := (hmem _).1 (hpre (F.length + 1) (by omega) (by omega))
      omega
    · by_contra hlt
      exact hnot ((hmem _).2 ⟨by omega, by omega⟩)
  refine ⟨fun e f => Sys.step_sent t s e, h1, hn, ?_⟩
  have hbuf := hr.stream_eq
  rw [List.nil_append, hn, ReadConn.stream_framePayload F _ le_rfl, List.take_length] at hbuf
  rw [hbuf]
  exact hc.bytes

/-- Two `Write`s sent in two POSTs, the second retried once, and taken by the peer in the
swapped order: its `buf` is both `Write`s, in order. -/
theorem write_read_stream_swapped :
    let s := (Sys.init "http://127.0.0.1:20001/" (cipherKey "tcp") 7).run Tunables.default
      [.write [104], .append [104], .lock, .double, .check 5, .post .ok, .write [105, 106],
        .append [105, 106], .lock, .double, .check 6,
        .post (.retry ⟨"remote is unavailable: 502 Bad Gateway"⟩), .post .ok]
    Reach Tunables.default s [104, 105, 106] [⟨1, 7, 0, [104]⟩, ⟨2, 7, 0, [105, 106]⟩] ∧
    ([⟨1, 7, 0, [104]⟩, ⟨2, 7, 0, [105, 106]⟩] : List Frame).length < 2 ^ 32 ∧
    ([⟨2, 7, 0, [105, 106]⟩, ⟨1, 7, 0, [104]⟩] : List Frame).Perm
      [⟨1, 7, 0, [104]⟩, ⟨2, 7, 0, [105, 106]⟩] ∧
    ReadConn.dataLength [⟨1, 7, 0, [104]⟩, ⟨2, 7, 0, [105, 106]⟩] ≤
      Tunables.default.maxWriteBufferSize ∧
    (ReadConn.readLoop Tunables.default (.newReadConn (low32 s.conn.idx) [])
      [⟨2, 7, 0, [105, 106]⟩, ⟨1, 7, 0, [104]⟩]).1.buf ++ s.conn.write.buf = [104, 105, 106] := by
  intro s
  have h : Reach Tunables.default s [104, 105, 106] [⟨1, 7, 0, [104]⟩, ⟨2, 7, 0, [105, 106]⟩] :=
    (Reach.init "http://127.0.0.1:20001/" (cipherKey "tcp") 7).run _
  have hw : ([⟨1, 7, 0, [104]⟩, ⟨2, 7, 0, [105, 106]⟩] : List Frame).length < 2 ^ 32 := by
    decide
  have hP : ([⟨2, 7, 0, [105, 106]⟩, ⟨1, 7, 0, [104]⟩] : List Frame).Perm
      [⟨1, 7, 0, [104]⟩, ⟨2, 7, 0, [105, 106]⟩] := .swap _ _ _
  have hsz : ReadConn.dataLength [⟨1, 7, 0, [104]⟩, ⟨2, 7, 0, [105, 106]⟩] ≤
      Tunables.default.maxWriteBufferSize := by decide
  exact ⟨h, hw, hP, hsz, (write_read_stream h hw [] _ hP hsz).2.2.2⟩

end Toh

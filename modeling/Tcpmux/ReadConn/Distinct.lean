import Tcpmux.ReadConn.Reassembly
import Tcpmux.ReadConn.Feed

/-!
# Reassembly of a stream without repeats

What `readLoopRearrange` does get right: when the frames the channel delivers carry distinct
indices, in any order, and their payloads together fit in `MaxWriteBufferSize`, the goroutine
takes every one of them, `counter` ends at the longest run `1, 2, …, k` of indices that
arrived, and `buf` holds their payloads in index order (`readLoop_reassembles_distinct`).

The loop invariant is `Consumed`: after the frames `T`, the bytes `futureSize` counts plus
those in `buf` are the bytes of `T`, the map holds frames of `T` only, every frame of `T`
is delivered or held, and every index up to `counter` is one of `T`'s.
-/

namespace Toh

namespace ReadConn

theorem dataLength_append (T U : List Frame) :
    dataLength (T ++ U) = dataLength T + dataLength U := by
  simp [dataLength]

/-- What a read side that has taken the frames `T` keeps. -/
structure Consumed (T : List Frame) (c : ReadConn) : Prop where
  bytes : c.futureSize + c.buf.length = dataLength T
  held_taken : ∀ k g, c.futureframes.lookup k = some g → g ∈ T
  taken_held : ∀ f ∈ T, f.idx.toNat ≤ c.counter ∨ c.futureframes.lookup f.idx.toNat = some f
  prefix_taken : ∀ k, 1 ≤ k → k ≤ c.counter → ∃ f ∈ T, f.idx.toNat = k

theorem Consumed.deliver {T : List Frame} {c : ReadConn} (h : Consumed T c) {g : Frame}
    (hg : c.futureframes.lookup (c.counter + 1) = some g) : Consumed T (c.deliver g) := by
  have hi := FutureFrames.idx_of_lookup hg
  refine ⟨?_, fun k f hk => ?_, fun f hf => ?_, fun k hk1 hk2 => ?_⟩
  · have := h.bytes
    simp only [ReadConn.deliver, List.length_append]
    omega
  · simp only [ReadConn.deliver, hi, FutureFrames.lookup_delete] at hk
    split at hk
    · cases hk
    · exact h.held_taken k f hk
  · simp only [ReadConn.deliver, hi, FutureFrames.lookup_delete]
    rcases h.taken_held f hf with hle | hl
    · exact .inl (by omega)
    · by_cases hk : f.idx.toNat = c.counter + 1
      · exact .inl hk.le
      · exact .inr (by rw [if_neg hk]; exact hl)
  · simp only [ReadConn.deliver, hi] at hk2
    rcases Nat.lt_or_ge k (c.counter + 1) with hlt | hge
    · exact h.prefix_taken k hk1 (by omega)
    · exact ⟨g, h.held_taken _ _ hg, by omega⟩

theorem Consumed.drain {T : List Frame} {c : ReadConn} (h : Consumed T c) :
    Consumed T c.drain := by
  induction c using drain.induct with
  | case1 c g hg ih => rw [drain_of_lookup_some hg]; exact ih (h.deliver hg)
  | case2 c hn => rw [drain_of_lookup_none hn]; exact h

theorem Consumed.insert {T : List Frame} {c : ReadConn} (h : Consumed T c) {f : Frame}
    (hf : ∀ g ∈ T, g.idx.toNat ≠ f.idx.toNat) : Consumed (T ++ [f]) (c.insert f) := by
  refine ⟨?_, fun k g hk => ?_, fun g hg => ?_, fun k hk1 hk2 => ?_⟩
  · have := h.bytes
    have h1 : dataLength (T ++ [f]) = dataLength T + f.data.length := by
      simp [dataLength_append, dataLength]
    simp only [ReadConn.insert, h1]
    push_cast
    omega
  · simp only [ReadConn.insert, FutureFrames.lookup_store] at hk
    split at hk
    · cases hk; exact List.mem_append_right _ (List.mem_singleton_self _)
    · exact List.mem_append_left _ (h.held_taken k g hk)
  · simp only [ReadConn.insert, FutureFrames.lookup_store]
    rcases List.mem_append.1 hg with hg | hg
    · rcases h.taken_held g hg with hle | hl
      · exact .inl hle
      · exact .inr (by rw [if_neg (hf g hg)]; exact hl)
    · obtain rfl := List.mem_singleton.1 hg
      exact .inr (by rw [if_pos rfl])
  · obtain ⟨g, hg, hgk⟩ := h.prefix_taken k hk1 hk2
    exact ⟨g, List.mem_append_left _ hg, hgk⟩

theorem Consumed.close {T : List Frame} {c : ReadConn} (h : Consumed T c) : Consumed T c.close := by
  rw [close_eq]; exact ⟨h.bytes, h.held_taken, h.taken_held, h.prefix_taken⟩

theorem consumed_newReadConn (idx : UInt32) (blk : List UInt8) :
    Consumed [] (newReadConn idx blk) :=
  ⟨by simp [newReadConn, dataLength], by simp [newReadConn], by simp,
    fun k h1 h2 => by simp [newReadConn] at h2; omega⟩

/-- A frame of the stream that has not arrived before passes, and the loop goes on. -/
theorem rearrange_consumed (t : Tunables) {T : List Frame} {c : ReadConn} (h : Consumed T c)
    {f : Frame} (hc : low32 f.connIdx = c.idx) (hpos : 0 < f.idx.toNat)
    (hf : ∀ g ∈ T, g.idx.toNat ≠ f.idx.toNat)
    (hsz : dataLength (T ++ [f]) ≤ t.maxWriteBufferSize) :
    rearrange t c f = .next (c.insert f).drain ∧ Consumed (T ++ [f]) (c.insert f).drain := by
  have hd := (h.insert hf).drain
  have hlt : c.counter < f.idx.toNat := by
    refine Nat.lt_of_not_le fun hle => ?_
    obtain ⟨g, hg, hgk⟩ := h.prefix_taken _ hpos hle
    exact hf g hg hgk
  have hb := hd.bytes
  refine ⟨?_, hd⟩
  unfold rearrange
  rw [if_neg (not_not.2 hc), if_neg (by omega), if_neg (by omega)]

/-- `readLoopRearrange` over frames of the stream, none of which arrived before. -/
theorem readLoop_consumed (t : Tunables) (D : Nat → List UInt8) (fs : List Frame) :
    ∀ (T : List Frame) (c : ReadConn), Consumed T c → Tidy c → Reassembled D [] c →
      (∀ f ∈ fs, low32 f.connIdx = c.idx ∧ 0 < f.idx.toNat ∧ f.data = D f.idx.toNat) →
      ((T ++ fs).map fun f => f.idx.toNat).Nodup → dataLength (T ++ fs) ≤ t.maxWriteBufferSize →
      (readLoop t c fs).2 = [] ∧ Consumed (T ++ fs) (readLoop t c fs).1 ∧
        Tidy (readLoop t c fs).1 ∧ Reassembled D [] (readLoop t c fs).1 := by
  induction fs with
  | nil => intro T c h ht hr _ _ _; simpa [readLoop] using ⟨h, ht, hr⟩
  | cons f fs ih =>
    intro T c h ht hr hfs hnd hsz
    obtain ⟨hc, hpos, hD⟩ := hfs f (List.mem_cons_self _ _)
    have hnew : ∀ g ∈ T, g.idx.toNat ≠ f.idx.toNat := fun g hg hgf =>
      (List.nodup_append.1 (List.map_append _ T _ ▸ hnd)).2.2 (List.mem_map_of_mem _ hg)
        (by simp [hgf])
    have hT : T ++ f :: fs = (T ++ [f]) ++ fs := by simp
    rw [hT] at hnd hsz
    obtain ⟨hpass, hcons⟩ := rearrange_consumed t h hc hpos hnew
      (by rw [dataLength_append] at hsz; omega)
    have ht' := rearrange_tidy t ht f
    have hr' := rearrange_reassembled t hr hD
    rw [hpass] at ht' hr'
    simp only [readLoop, hpass, hT]
    exact ih _ _ hcons ht' hr'
      (fun g hg => by simpa [ReadConn.insert] using hfs g (List.mem_cons_of_mem _ hg)) hnd hsz

/-- `counter` is the end of the longest run `1, 2, …` of indices taken. -/
theorem Consumed.counter_run {T : List Frame} {c : ReadConn} (h : Consumed T c) (ht : Tidy c) :
    (∀ k, 1 ≤ k → k ≤ c.counter → k ∈ T.map fun f => f.idx.toNat) ∧
    c.counter + 1 ∉ T.map (fun f => f.idx.toNat) := by
  refine ⟨fun k hk1 hk2 => ?_, fun hm => ?_⟩
  · obtain ⟨f, hf, rfl⟩ := h.prefix_taken k hk1 hk2
    exact List.mem_map_of_mem _ hf
  · obtain ⟨f, hf, hfk⟩ := List.mem_map.1 hm
    rcases h.taken_held f hf with hle | hl
    · omega
    · have := ht.above _ _ hl
      omega

/-- `readLoop_consumed` from a fresh read side. -/
theorem readLoop_newReadConn (t : Tunables) (D : Nat → List UInt8) (idx : UInt32)
    (blk : List UInt8) (fs : List Frame)
    (hf : ∀ f ∈ fs, low32 f.connIdx = idx ∧ 0 < f.idx.toNat ∧ f.data = D f.idx.toNat)
    (hnd : (fs.map fun f => f.idx.toNat).Nodup) (hsz : dataLength fs ≤ t.maxWriteBufferSize) :
    (readLoop t (newReadConn idx blk) fs).2 = [] ∧
      Consumed fs (readLoop t (newReadConn idx blk) fs).1 ∧
      Tidy (readLoop t (newReadConn idx blk) fs).1 ∧
      Reassembled D [] (readLoop t (newReadConn idx blk) fs).1 := by
  simpa using readLoop_consumed t D fs [] _ (consumed_newReadConn idx blk)
    (tidy_newReadConn idx blk) (reassembled_newReadConn D idx blk) hf (by simpa using hnd)
    (by simpa using hsz)

/-- Frames of a stream with distinct indices, in any order, whose payloads fit in
`MaxWriteBufferSize` together: the goroutine takes them all, `counter` ends at the longest
run `1, …, k` of indices that arrived, and `buf` is `D 1 ++ … ++ D k`. -/
theorem readLoop_reassembles_distinct (t : Tunables) (D : Nat → List UInt8) (idx : UInt32)
    (blk : List UInt8) (fs : List Frame)
    (hf : ∀ f ∈ fs, low32 f.connIdx = idx ∧ 0 < f.idx.toNat ∧ f.data = D f.idx.toNat)
    (hnd : (fs.map fun f => f.idx.toNat).Nodup) (hsz : dataLength fs ≤ t.maxWriteBufferSize) :
    (readLoop t (newReadConn idx blk) fs).2 = [] ∧
    (∀ k, 1 ≤ k → k ≤ (readLoop t (newReadConn idx blk) fs).1.counter →
      k ∈ fs.map fun f => f.idx.toNat) ∧
    (readLoop t (newReadConn idx blk) fs).1.counter + 1 ∉ fs.map (fun f => f.idx.toNat) ∧
    (readLoop t (newReadConn idx blk) fs).1.buf =
      stream D (readLoop t (newReadConn idx blk) fs).1.counter := by
  obtain ⟨hl, hc, ht, hr⟩ := readLoop_newReadConn t D idx blk fs hf hnd hsz
  exact ⟨hl, (hc.counter_run ht).1, (hc.counter_run ht).2, by simpa using hr.stream_eq⟩

theorem readLoop_reassembles_distinct_swapped :
    (∀ f ∈ [(⟨2, 7, 0, [98]⟩ : Frame), ⟨1, 7, 0, [97]⟩], low32 f.connIdx = low32 7 ∧
      0 < f.idx.toNat ∧ f.data = (fun k => if k = 1 then [97] else [98]) f.idx.toNat) ∧
    ([(⟨2, 7, 0, [98]⟩ : Frame), ⟨1, 7, 0, [97]⟩].map fun f => f.idx.toNat).Nodup ∧
    dataLength [⟨2, 7, 0, [98]⟩, ⟨1, 7, 0, [97]⟩] ≤ Tunables.default.maxWriteBufferSize ∧
    (readLoop Tunables.default (newReadConn (low32 7) [])
      [⟨2, 7, 0, [98]⟩, ⟨1, 7, 0, [97]⟩]).2 = [] := by
  have hf : ∀ f ∈ [(⟨2, 7, 0, [98]⟩ : Frame), ⟨1, 7, 0, [97]⟩], low32 f.connIdx = low32 7 ∧
      0 < f.idx.toNat ∧ f.data = (fun k => if k = 1 then [97] else [98]) f.idx.toNat := by
    decide
  have hnd : ([(⟨2, 7, 0, [98]⟩ : Frame), ⟨1, 7, 0, [97]⟩].map fun f => f.idx.toNat).Nodup := by
    decide
  have hsz :
      dataLength [⟨2, 7, 0, [98]⟩, ⟨1, 7, 0, [97]⟩] ≤ Tunables.default.maxWriteBufferSize := by
    decide
  exact ⟨hf, hnd, hsz,
    (readLoop_reassembles_distinct _ (fun k => if k = 1 then [97] else [98]) _ _ _ hf hnd hsz).1⟩

end ReadConn

end Toh

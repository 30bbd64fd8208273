import Tcpmux.Frame

/-!
# The future-frames map of a read side

`readConn.futureframes map[uint64]frame` holds the frames that arrived before the one the
read side expects.  Its one writer, `readLoopRearrange`, stores a frame under its own `idx`
(`futureframes[f.idx] = f`), so the map carries that as a field (`FutureFrames.idx_eq`): a
map that files a frame under another index cannot be built.  `held` is the number of payload
bytes the map holds, the quantity `futureSize` is meant to track.

The byte accounting of the two operations (`held_store`, `held_delete`) is what the
`futureSize` results of `Tcpmux.ReadConn.Reassembly` are built on.
-/

namespace Toh

/-- `futureframes`: frames that arrived early, each filed under its own `idx`. -/
structure FutureFrames where
  map : AList (fun _ : Nat => Frame)
  idx_eq : ∀ k f, map.lookup k = some f → f.idx.toNat = k

namespace FutureFrames

/-! ## Operations -/

/-- `map[uint64]frame{}`. -/
def empty : FutureFrames := ⟨∅, by simp⟩

/-- `futureframes[k]`. -/
def lookup (m : FutureFrames) (k : Nat) : Option Frame := m.map.lookup k

/-- `futureframes[f.idx] = f`. -/
def store (m : FutureFrames) (f : Frame) : FutureFrames :=
  ⟨m.map.insert f.idx.toNat f, fun k g h => by
    by_cases hk : k = f.idx.toNat
    · subst hk
      rw [AList.lookup_insert, Option.some.injEq] at h
      rw [← h]
    · rw [AList.lookup_insert_ne hk] at h
      exact m.idx_eq k g h⟩

/-- `delete(futureframes, k)`. -/
def delete (m : FutureFrames) (k : Nat) : FutureFrames :=
  ⟨m.map.erase k, fun j g h => by
    by_cases hj : j = k
    · subst hj
      simp at h
    · rw [AList.lookup_erase_ne hj] at h
      exact m.idx_eq j g h⟩

/-- `len(futureframes)`. -/
def size (m : FutureFrames) : Nat := m.map.keys.length

/-- Payload bytes of the frames the map holds. -/
def held (m : FutureFrames) : Nat := (m.map.entries.map fun e => e.2.data.length).sum

/-- Payload bytes filed under `k` (0 when `k` is absent). -/
def heldAt (m : FutureFrames) (k : Nat) : Nat := ((m.lookup k).map fun f => f.data.length).getD 0

/-! ## Lookup lemmas -/

@[simp] theorem lookup_empty (k : Nat) : empty.lookup k = none := rfl

@[simp] theorem lookup_store_self (m : FutureFrames) (f : Frame) :
    (m.store f).lookup f.idx.toNat = some f :=
  AList.lookup_insert _

theorem lookup_store_ne (m : FutureFrames) (f : Frame) {k : Nat} (h : k ≠ f.idx.toNat) :
    (m.store f).lookup k = m.lookup k :=
  AList.lookup_insert_ne h

@[simp] theorem lookup_delete_self (m : FutureFrames) (k : Nat) : (m.delete k).lookup k = none :=
  AList.lookup_erase _ _

theorem lookup_delete_ne (m : FutureFrames) {j k : Nat} (h : j ≠ k) :
    (m.delete k).lookup j = m.lookup j :=
  AList.lookup_erase_ne h

theorem lookup_store (m : FutureFrames) (f : Frame) (k : Nat) :
    (m.store f).lookup k = if k = f.idx.toNat then some f else m.lookup k := by
  split
  · subst k; exact lookup_store_self m f
  · exact lookup_store_ne m f ‹_›

theorem lookup_delete (m : FutureFrames) (j k : Nat) :
    (m.delete k).lookup j = if j = k then none else m.lookup j := by
  split
  · subst j; exact lookup_delete_self m k
  · exact lookup_delete_ne m ‹_›

theorem idx_of_lookup {m : FutureFrames} {k : Nat} {f : Frame} (h : m.lookup k = some f) :
    f.idx.toNat = k :=
  m.idx_eq k f h

/-- Deleting a present index shrinks the map: the measure of the drain loop. -/
theorem size_delete_lt {m : FutureFrames} {k : Nat} {f : Frame} (h : m.lookup k = some f) :
    (m.delete k).size < m.size := by
  have hk : k ∈ m.map.keys :=
    AList.mem_keys.1 (AList.lookup_isSome.1 (by simp [lookup] at h; simp [h]))
  simp only [size, delete, AList.keys_erase, List.length_erase_of_mem hk]
  exact Nat.sub_lt (List.length_pos_of_mem hk) Nat.one_pos

/-! ## Byte accounting -/

private theorem sum_kerase (a : Nat) (l : List (Sigma fun _ : Nat => Frame)) :
    ((l.kerase a).map fun e => e.2.data.length).sum +
      ((l.dlookup a).map fun f => f.data.length).getD 0 =
    (l.map fun e => e.2.data.length).sum := by
  induction l with
  | nil => simp
  | cons s t ih =>
    by_cases h : a = s.1
    · subst h
      obtain ⟨k, g⟩ := s
      simp [List.kerase_cons_eq rfl, List.dlookup_cons_eq, Nat.add_comm]
    · rw [List.kerase_cons_ne h, List.dlookup_cons_ne _ _ h]
      simp only [List.map_cons, List.sum_cons] at ih ⊢
      omega

theorem held_empty : empty.held = 0 := rfl

/-- Storing `f` adds its bytes and drops those of the frame it replaces. -/
theorem held_store (m : FutureFrames) (f : Frame) :
    (m.store f).held + m.heldAt f.idx.toNat = m.held + f.data.length := by
  have := sum_kerase f.idx.toNat m.map.entries
  simp only [held, heldAt, lookup, store, AList.insert_entries, List.map_cons, List.sum_cons,
    AList.lookup] at this ⊢
  omega

/-- Deleting `k` drops the bytes filed under `k`. -/
theorem held_delete (m : FutureFrames) (k : Nat) :
    (m.delete k).held + m.heldAt k = m.held := by
  simpa [held, heldAt, lookup, delete, AList.erase, AList.lookup] using sum_kerase k m.map.entries

end FutureFrames

end Toh

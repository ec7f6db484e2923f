import Mathlib.Data.List.Perm.Basic
import Minikernel.Proofs.Memory.Creation

/-!
A pool of frames and all that is held of it. Frames are taken for a bare reservation or for an
address space, and come back when either is dropped, in whatever order that happens. The counter of
the pool is the sum of what is held, so nothing is ever given back that was not taken, and two words
of 64 bits count as the pool does: the sum that is checked and the differences that are not.
-/

namespace Minikernel

inductive Lease where
  | reservation (pages : UInt64)
  | space (space : AddressSpace)

namespace Lease

def pages : Lease → UInt64
  | .reservation pages => pages
  | .space held => held.pages

def written (address : UInt32) (data : Bytes) : Lease → Lease
  | .reservation pages => .reservation pages
  | .space held => .space (held.write address data).2

theorem pages_written (address : UInt32) (data : Bytes) (lease : Lease) :
    (lease.written address data).pages = lease.pages := by
  cases lease <;> rfl

end Lease

structure Holdings where
  pool : FramePool
  held : List Lease

namespace Holdings

/-- What is asked of a pool or done to what is held of it; a lease is named by its position. -/
inductive Request where
  | reserve (pages : UInt64)
  | create (code stack : UInt64)
  | write (position : Nat) (address : UInt32) (data : Bytes)
  | drop (position : Nat)

def start (total : UInt64) : Holdings :=
  ⟨.ofSize total.toNat, []⟩

def serve (holdings : Holdings) : Request → Except MemoryError Unit × Holdings
  | .reserve pages =>
      match holdings.pool.reserve pages.toNat with
      | .ok pool => (.ok (), ⟨pool, .reservation pages :: holdings.held⟩)
      | .error cause => (.error cause, holdings)
  | .create code stack =>
      match AddressSpace.createInPlace holdings.pool code stack with
      | (.ok space, pool) => (.ok (), ⟨pool, .space space :: holdings.held⟩)
      | (.error cause, pool) => (.error cause, ⟨pool, holdings.held⟩)
  | .write position address data =>
      (.ok (), ⟨holdings.pool, holdings.held.modify position (Lease.written address data)⟩)
  | .drop position =>
      match holdings.held[position]? with
      | some lease =>
          (.ok (), ⟨holdings.pool.release lease.pages.toNat, holdings.held.eraseIdx position⟩)
      | none => (.ok (), holdings)

def run (holdings : Holdings) : List Request → Holdings
  | [] => holdings
  | request :: rest => (holdings.serve request).2.run rest

def outstanding (holdings : Holdings) : Nat :=
  (holdings.held.map fun lease => lease.pages.toNat).sum

end Holdings

structure FrameWords where
  total : UInt64
  used : UInt64

namespace FrameWords

/-- Wraps around if more is used than there is. -/
def free (words : FrameWords) : UInt64 :=
  words.total - words.used

def stats (words : FrameWords) : FrameStats :=
  ⟨words.total, words.used, words.free⟩

/-- The sum is looked at only if it fits in a word. -/
def reserve (words : FrameWords) (pages : UInt64) : Except MemoryError FrameWords :=
  if words.used.toNat + pages.toNat < UInt64.size ∧ words.used + pages ≤ words.total then
    .ok ⟨words.total, words.used + pages⟩
  else .error (.outOfFrames pages.toNat words.free.toNat words.total.toNat)

/-- Wraps around if more is given back than is used. -/
def release (words : FrameWords) (pages : UInt64) : FrameWords :=
  ⟨words.total, words.used - pages⟩

end FrameWords

namespace FramePool

variable {pool : FramePool} {pages : UInt64}

def words (pool : FramePool) : FrameWords :=
  ⟨UInt64.ofNat pool.total, UInt64.ofNat pool.used⟩

theorem reserve_of_short {pages : Nat} (short : pool.free < pages) :
    pool.reserve pages = .error (.outOfFrames pages pool.free pool.total) := by
  unfold free at short
  exact dif_neg (by omega)

theorem used_words (small : pool.total < UInt64.size) : pool.words.used.toNat = pool.used := by
  have bound := pool.usedBound
  exact UInt64.toNat_ofNat_of_lt' (by omega)

theorem total_words (small : pool.total < UInt64.size) : pool.words.total.toNat = pool.total :=
  UInt64.toNat_ofNat_of_lt' small

theorem free_words (small : pool.total < UInt64.size) : pool.words.free.toNat = pool.free := by
  have bound := pool.usedBound
  have total := total_words small
  have used := used_words small
  have fits : pool.words.used ≤ pool.words.total := by
    rw [UInt64.le_iff_toNat_le, total, used]
    exact bound
  rw [FrameWords.free, UInt64.toNat_sub_of_le _ _ fits, total, used, free]

theorem stats_words (small : pool.total < UInt64.size) : pool.words.stats = pool.stats := by
  have free := free_words small
  have same : pool.words.free = UInt64.ofNat pool.free := by
    rw [← UInt64.toNat_inj, free, UInt64.toNat_ofNat_of_lt']
    unfold FramePool.free
    omega
  rw [FrameWords.stats, same]
  rfl

theorem reserve_words (small : pool.total < UInt64.size) (pages : UInt64) :
    pool.words.reserve pages = (pool.reserve pages.toNat).map words := by
  have bound := pool.usedBound
  have total := total_words small
  have used := used_words small
  have width : UInt64.size = 2 ^ 64 := rfl
  by_cases room : pool.used + pages.toNat ≤ pool.total
  · have sum : (pool.words.used + pages).toNat = pool.used + pages.toNat := by
      rw [UInt64.toNat_add, used]
      exact Nat.mod_eq_of_lt (by omega)
    have fits : pool.words.used.toNat + pages.toNat < UInt64.size ∧
        pool.words.used + pages ≤ pool.words.total := by
      rw [UInt64.le_iff_toNat_le, sum, total, used]
      exact ⟨by omega, room⟩
    have same : pool.words.used + pages = UInt64.ofNat (pool.used + pages.toNat) := by
      rw [← UInt64.toNat_inj, sum, UInt64.toNat_ofNat_of_lt']
      omega
    rw [FrameWords.reserve, if_pos fits, reserve, dif_pos room, same]
    rfl
  · have full : ¬(pool.words.used.toNat + pages.toNat < UInt64.size ∧
        pool.words.used + pages ≤ pool.words.total) := by
      rintro ⟨fits, below⟩
      rw [used] at fits
      rw [UInt64.le_iff_toNat_le, UInt64.toNat_add, used, total, Nat.mod_eq_of_lt fits] at below
      exact room below
    rw [FrameWords.reserve, if_neg full, reserve, dif_neg room, free_words small, total]
    rfl

theorem release_words (small : pool.total < UInt64.size) (held : pages.toNat ≤ pool.used) :
    pool.words.release pages = (pool.release pages.toNat).words := by
  have bound := pool.usedBound
  have used := used_words small
  have fits : pages ≤ pool.words.used := by
    rw [UInt64.le_iff_toNat_le, used]
    exact held
  have same : pool.words.used - pages = UInt64.ofNat (pool.used - pages.toNat) := by
    rw [← UInt64.toNat_inj, UInt64.toNat_sub_of_le _ _ fits, used, UInt64.toNat_ofNat_of_lt']
    omega
  rw [FrameWords.release, same]
  rfl

end FramePool

namespace Holdings

variable {holdings later : Holdings} {total : UInt64} {lease : Lease} {position : Nat}

structure Balanced (holdings : Holdings) (total : UInt64) : Prop where
  total : holdings.pool.total = total.toNat
  used : holdings.pool.used = holdings.outstanding

theorem balanced_start (total : UInt64) : (start total).Balanced total :=
  ⟨rfl, rfl⟩

theorem Balanced.taken {pool : FramePool} (balanced : holdings.Balanced total)
    (reserved : holdings.pool.reserve lease.pages.toNat = .ok pool) :
    Balanced ⟨pool, lease :: holdings.held⟩ total := by
  obtain ⟨sameTotal, more⟩ := FramePool.reserve_eq_ok_iff.mp reserved
  refine ⟨sameTotal.trans balanced.total, ?_⟩
  have before := balanced.used
  simp only [outstanding, List.map_cons, List.sum_cons] at before ⊢
  omega

theorem outstanding_eq (found : holdings.held[position]? = some lease) :
    holdings.outstanding = lease.pages.toNat +
      ((holdings.held.eraseIdx position).map fun lease => lease.pages.toNat).sum := by
  obtain ⟨inside, same⟩ := List.getElem?_eq_some_iff.mp found
  have share := ((List.getElem_cons_eraseIdx_perm inside).map
    fun lease : Lease => lease.pages.toNat).sum_nat
  rw [same, List.map_cons, List.sum_cons] at share
  exact share.symm

theorem Balanced.serve (balanced : holdings.Balanced total) (request : Request) :
    (holdings.serve request).2.Balanced total := by
  cases request with
  | reserve pages =>
      simp only [Holdings.serve]
      split
      · rename_i pool reserved
        exact @Balanced.taken holdings total (.reservation pages) pool balanced reserved
      · exact balanced
  | create code stack =>
      simp only [Holdings.serve]
      split
      · rename_i space pool created
        have made := AddressSpace.createInPlace_eq_ok_iff.mp created
        exact @Balanced.taken holdings total (.space space) pool balanced
          (AddressSpace.create_reserves made)
      · rename_i cause pool refused
        rw [(AddressSpace.createInPlace_eq_error_iff.mp refused).2]
        exact balanced
  | write position address data =>
      refine ⟨balanced.total, balanced.used.trans ?_⟩
      simp only [outstanding, Holdings.serve]
      congr 1
      apply List.ext_getElem?
      intro index
      simp only [List.getElem?_map, List.getElem?_modify, Option.map_eq_map, Option.map_map]
      congr 1
      funext lease
      split <;> simp [Lease.pages_written]
  | drop position =>
      simp only [Holdings.serve]
      split
      · rename_i lease found
        have share := outstanding_eq found
        refine ⟨balanced.total, ?_⟩
        have before := balanced.used
        simp only [FramePool.release, outstanding] at share before ⊢
        omega
      · exact balanced

theorem Balanced.run (balanced : holdings.Balanced total) (requests : List Request) :
    (holdings.run requests).Balanced total := by
  induction requests generalizing holdings with
  | nil => exact balanced
  | cons request rest ih => exact ih (balanced.serve request)

theorem Balanced.lease_le (balanced : holdings.Balanced total)
    (found : holdings.held[position]? = some lease) :
    lease.pages.toNat ≤ holdings.pool.used := by
  rw [balanced.used, outstanding_eq found]
  exact Nat.le_add_right _ _

theorem serve_reserve_isOk_iff {pages : UInt64} :
    (∃ later, holdings.serve (.reserve pages) = (.ok (), later)) ↔
      pages.toNat ≤ holdings.pool.free := by
  rw [← FramePool.reserve_isOk_iff]
  simp only [serve]
  cases holdings.pool.reserve pages.toNat <;> simp

theorem serve_reserve_refused {pages : UInt64} {cause : MemoryError}
    (refused : holdings.serve (.reserve pages) = (.error cause, later)) :
    later = holdings ∧
      cause = .outOfFrames pages.toNat holdings.pool.free holdings.pool.total := by
  have short : holdings.pool.free < pages.toNat := by
    refine Nat.lt_of_not_le fun room => ?_
    obtain ⟨granted, served⟩ := serve_reserve_isOk_iff.mpr room
    rw [refused] at served
    cases served
  simp only [serve, FramePool.reserve_of_short short] at refused
  cases refused
  exact ⟨rfl, rfl⟩

theorem serve_create_refused {code stack : UInt64} {cause : MemoryError}
    (refused : holdings.serve (.create code stack) = (.error cause, later)) :
    later = holdings := by
  simp only [serve] at refused
  split at refused
  · cases refused
  · rename_i found pool failed
    cases refused
    rw [(AddressSpace.createInPlace_eq_error_iff.mp failed).2]

/-- What holds of a pool of so many frames and of all that is held of it. Whatever is held can be
given back in full, and the pool in 64-bit words, which wraps around, does as the pool does. -/
structure Conserved (holdings : Holdings) (total : UInt64) : Prop where
  used : holdings.pool.stats.usedFrames.toNat =
    (holdings.held.map fun lease => lease.pages.toNat).sum
  bounded : holdings.pool.stats.usedFrames ≤ total
  size : holdings.pool.stats.totalFrames = total
  split : holdings.pool.stats.usedFrames.toNat + holdings.pool.stats.freeFrames.toNat =
    total.toNat
  reserves_iff : ∀ pages : UInt64,
    (∃ later, holdings.serve (.reserve pages) = (.ok (), later)) ↔
      pages ≤ holdings.pool.stats.freeFrames
  refusal : ∀ (pages : UInt64) (cause : MemoryError) (later : Holdings),
    holdings.serve (.reserve pages) = (.error cause, later) →
      later = holdings ∧ cause = .outOfFrames pages.toNat
        holdings.pool.stats.freeFrames.toNat total.toNat
  creation_refused : ∀ (code stack : UInt64) (cause : MemoryError) (later : Holdings),
    holdings.serve (.create code stack) = (.error cause, later) → later = holdings
  given_back : ∀ (position : Nat) (lease : Lease), holdings.held[position]? = some lease →
    (holdings.serve (.drop position)).2.pool.used + lease.pages.toNat = holdings.pool.used
  stats_words : holdings.pool.words.stats = holdings.pool.stats
  reserve_words : ∀ pages : UInt64, holdings.pool.words.reserve pages =
    (holdings.pool.reserve pages.toNat).map FramePool.words
  drop_words : ∀ (position : Nat) (lease : Lease), holdings.held[position]? = some lease →
    holdings.pool.words.release lease.pages =
      (holdings.serve (.drop position)).2.pool.words

theorem Balanced.conserved (balanced : holdings.Balanced total) : holdings.Conserved total := by
  have small : holdings.pool.total < UInt64.size := by
    rw [balanced.total]
    exact total.toNat_lt
  have bound := holdings.pool.usedBound
  have sameTotal := balanced.total
  have usedWord : holdings.pool.stats.usedFrames.toNat = holdings.pool.used :=
    FramePool.used_words small
  have freeWord : holdings.pool.stats.freeFrames.toNat = holdings.pool.free := by
    rw [← FramePool.stats_words small]
    exact FramePool.free_words small
  have dropped : ∀ position lease, holdings.held[position]? = some lease →
      (holdings.serve (.drop position)).2.pool = holdings.pool.release lease.pages.toNat := by
    intro position lease found
    simp only [Holdings.serve, found]
  constructor
  · rw [usedWord, balanced.used]
    rfl
  · rw [UInt64.le_iff_toNat_le, usedWord]
    omega
  · rw [← UInt64.toNat_inj, ← sameTotal]
    exact FramePool.total_words small
  · rw [usedWord, freeWord, FramePool.free]
    omega
  · intro pages
    rw [serve_reserve_isOk_iff, UInt64.le_iff_toNat_le, freeWord]
  · intro pages cause later refused
    rw [freeWord, ← sameTotal]
    exact serve_reserve_refused refused
  · intro code stack cause later refused
    exact serve_create_refused refused
  · intro position lease found
    have share := balanced.lease_le found
    rw [dropped position lease found]
    simp only [FramePool.release]
    omega
  · exact FramePool.stats_words small
  · exact FramePool.reserve_words small
  · intro position lease found
    rw [dropped position lease found]
    exact FramePool.release_words small (balanced.lease_le found)

/-- Whatever is reserved, created, written and dropped in whatever order: the frames in use are
those of the reservations and of the spaces that are still held, none is lost and none is counted
twice. -/
theorem frames_conserved (total : UInt64) (requests : List Request) :
    ((start total).run requests).Conserved total :=
  ((balanced_start total).run requests).conserved

-- Of ten frames six are taken, the sum with the largest number of pages does not fit in a word, and
-- all are free again when both holders are gone, the first one first.
example :
    let requests : List Request := [.reserve 4, .create 1 0, .reserve 0xffffffffffffffff,
      .write 0 2000 [1, 2, 3], .drop 1]
    ((start 10).run (requests.take 4)).pool.used = 6 ∧ ((start 10).run requests).pool.used = 2 ∧
      ((start 10).run (requests ++ [.drop 0])).pool.used = 0 := by
  decide +kernel

end Holdings

end Minikernel

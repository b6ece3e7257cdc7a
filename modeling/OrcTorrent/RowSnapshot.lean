import Mathlib.Algebra.Order.Ring.Nat
import OrcTorrent.State

/-! `get_row_snapshot` of `orc-core/src/lib.rs`: the progress of a record and its pieces in
200 bins, each with the fraction of its pieces completed and the least availability of the
pieces not yet completed. The `f64` arithmetic is a `RowF64` over a type of `f64` values,
with the machine's `Float` as one instance and exact fractions as another.

Main result: when `ceil(N / 200)` is computed exactly and a ratio of at most 1 reaches 1.0
only when it is 1, the bins are those of `specBin` for `p = ceil(N / 200)`, and their piece
counts add up to `N` (`getRowSnapshot_bins`). -/

namespace OrcTorrent

/-- The `f64` arithmetic of `get_row_snapshot`, over a type `F` of `f64` values. -/
structure RowF64 (F : Type) where
  zero : F
  /-- `a as f64 / b as f64` -/
  divNat : Nat → Nat → F
  /-- `x.clamp(0.0, 1.0)` -/
  clamp01 : F → F
  /-- `(n as f64 / d as f64).ceil() as usize` -/
  ceilDivNat : Nat → Nat → Nat
  /-- `(x * n as f64).floor() as usize` -/
  floorMulNat : F → Nat → Nat
  /-- `x >= 1.0` -/
  geOne : F → Bool

/-- The machine's `f64`. -/
def RowF64.float : RowF64 Float where
  zero := 0
  divNat a b := a.toFloat / b.toFloat
  clamp01 x := max 0 (min x 1)
  ceilDivNat n d := (n.toFloat / d.toFloat).ceil.toUInt64.toNat
  floorMulNat x n := (x * n.toFloat).floor.toUInt64.toNat
  geOne x := x ≥ 1

/-- Exact fractions `(numerator, denominator)`, the arithmetic the `f64` operations round. -/
def RowF64.exact : RowF64 (Nat × Nat) where
  zero := (0, 1)
  divNat a b := (a, b)
  clamp01 x := if x.1 ≤ x.2 then x else (1, 1)
  ceilDivNat n d := (n + d - 1) / d
  floorMulNat x n := x.1 * n / x.2
  geOne x := x.2 ≤ x.1

structure PieceBin (F : Type) where
  haveRatio : F
  minAvail : Nat
  piecesInBin : Nat

structure TorrentRowSnapshot (F : Type) where
  progress : F
  state : TorrentState
  piecesBins : List (PieceBin F)
  heartbeatSamples : List Nat

def BINS : Nat := 200
def U32_MAX : Nat := 2 ^ 32 - 1

section Model

variable {F : Type} (ops : RowF64 F)

/-- `progress`: the downloaded bytes over the total, clamped to `[0, 1]`. -/
def rowProgress (rt : TorrentRuntime) : F :=
  if rt.totalBytes = 0 then ops.zero else ops.clamp01 (ops.divNat rt.downloadedBytes rt.totalBytes)

/-- `completed_pieces`. -/
def completedPieces (rt : TorrentRuntime) : Nat :=
  ops.floorMulNat (rowProgress ops rt) (max rt.totalPiecesEstimate 1)

/-- The loop `for piece_idx in start_piece..end_piece` that computes `min_avail_in_bin`. -/
def minAvailInBin (avail : List Nat) (completedPieces startPiece endPiece : Nat) : Nat :=
  (List.range' startPiece (endPiece - startPiece)).foldl (fun m pieceIdx =>
    match avail[pieceIdx]? with
    | some a => if pieceIdx ≥ completedPieces then min m a else m
    | none => m) U32_MAX

/-- One iteration of the bin loop. -/
def pieceBin (avail : List Nat) (totalPieces piecesPerBin completedPieces binIdx : Nat) :
    PieceBin F :=
  let startPiece := binIdx * piecesPerBin
  let endPiece := min ((binIdx + 1) * piecesPerBin) totalPieces
  if startPiece ≥ totalPieces then ⟨ops.zero, 0, 0⟩
  else
    let piecesInBin := endPiece - startPiece
    let haveCount := min (completedPieces - startPiece) piecesInBin
    let haveRatio := if piecesInBin > 0 then ops.divNat haveCount piecesInBin else ops.zero
    let minAvail :=
      if ops.geOne haveRatio then U32_MAX
      else
        let m := minAvailInBin avail completedPieces startPiece endPiece
        if m = U32_MAX then 0 else m
    ⟨haveRatio, minAvail, piecesInBin % 2 ^ 32⟩

def getRowSnapshot (s : OrcState) (id : String) : Option (TorrentRowSnapshot F) :=
  (s.torrents.get? id).map fun rec =>
    let rt := rec.runtime
    let totalPieces := max rt.totalPiecesEstimate 1
    let piecesPerBin := ops.ceilDivNat totalPieces BINS
    { progress := rowProgress ops rt
      state := rt.state
      piecesBins := (List.range BINS).map
        (pieceBin ops rt.pieceAvailability totalPieces piecesPerBin (completedPieces ops rt))
      heartbeatSamples := rt.heartbeatSamples }

/-! ## The bins as the specification describes them -/

/-- The least availability among the pieces of `[lo, hi)` the list has, `u32::MAX` when
there is none. -/
def leastAvail (avail : List Nat) (lo hi : Nat) : Nat :=
  ((List.range' lo (hi - lo)).filterMap fun k => avail[k]?).foldl min U32_MAX

/-- Bin `b` of `n` pieces in bins of `p`, with the first `c` pieces completed: the pieces
`[b p, min((b + 1) p, n))`, the fraction of them below `c`, and, when some are not completed,
the least availability of those, `u32::MAX` read as 0. -/
def specBin (avail : List Nat) (n p c b : Nat) : PieceBin F :=
  if b * p < n then
    let start := b * p
    let stop := min ((b + 1) * p) n
    let haveCount := ((List.range' start (stop - start)).filter (· < c)).length
    let least := leastAvail avail (max start c) stop
    ⟨ops.divNat haveCount (stop - start),
      if haveCount < stop - start then (if least = U32_MAX then 0 else least) else U32_MAX,
      stop - start⟩
  else ⟨ops.zero, 0, 0⟩

end Model

/-! ## From the loop to the specification -/

theorem length_filter_lt_range' (c s n : Nat) :
    ((List.range' s n).filter (· < c)).length = min (c - s) n := by
  induction n generalizing s with
  | zero => simp
  | succ n ih =>
    rw [List.range'_succ, List.filter_cons]
    split
    · next h => rw [List.length_cons, ih]; simp at h; omega
    · next h => rw [ih]; simp at h; omega

theorem filter_le_range' (c s n : Nat) :
    (List.range' s n).filter (c ≤ ·) = List.range' (max s c) (s + n - max s c) := by
  induction n generalizing s with
  | zero => simp
  | succ n ih =>
    rw [List.range'_succ, List.filter_cons, ih]
    split
    · next h =>
      simp only [decide_eq_true_eq] at h
      rw [show max s c = s by omega, show max (s + 1) c = s + 1 by omega,
        show s + (n + 1) - s = n + 1 by omega, List.range'_succ]
      congr 2; omega
    · next h =>
      simp only [decide_eq_true_eq] at h
      congr 1 <;> omega

theorem minAvailInBin_eq_leastAvail (avail : List Nat) (c start stop : Nat) (h : start ≤ stop) :
    minAvailInBin avail c start stop = leastAvail avail (max start c) stop := by
  have hloop : ∀ (l : List Nat) (acc : Nat), l.foldl (fun m pieceIdx =>
      match avail[pieceIdx]? with
      | some a => if pieceIdx ≥ c then min m a else m
      | none => m) acc = ((l.filter (c ≤ ·)).filterMap fun k => avail[k]?).foldl min acc := by
    intro l
    induction l with
    | nil => intro acc; rfl
    | cons k l ih =>
      intro acc
      rw [List.foldl_cons, ih, List.filter_cons]
      cases ha : avail[k]? <;> by_cases hk : c ≤ k <;> simp [ha, hk]
  rw [minAvailInBin, leastAvail, hloop, filter_le_range', show start + (stop - start) = stop by omega]

section Refinement

variable {F : Type} (ops : RowF64 F)
  (hge : ∀ a b, a ≤ b → 0 < b → b < 2 ^ 32 → ops.geOne (ops.divNat a b) = decide (b ≤ a))

include hge in
/-- Each iteration of the bin loop builds the bin of the specification. -/
theorem pieceBin_eq_specBin (avail : List Nat) {n p c : Nat} (hp : 0 < p) (hn : n < 2 ^ 32)
    (b : Nat) : pieceBin ops avail n p c b = specBin ops avail n p c b := by
  unfold pieceBin specBin
  dsimp only
  by_cases hb : b * p < n
  · have hstart : b * p ≤ min ((b + 1) * p) n := by
      rw [Nat.add_mul, Nat.one_mul]; omega
    have hpos : 0 < min ((b + 1) * p) n - b * p := by
      rw [Nat.add_mul, Nat.one_mul]; omega
    have hsmall : min ((b + 1) * p) n - b * p < 2 ^ 32 := by omega
    rw [if_neg (Nat.not_le.mpr hb), if_pos hb, if_pos hpos, length_filter_lt_range',
      hge _ _ (Nat.min_le_right _ _) hpos hsmall, Nat.mod_eq_of_lt hsmall,
      minAvailInBin_eq_leastAvail avail c _ _ hstart]
    congr 1
    by_cases hfull : min ((b + 1) * p) n - b * p ≤ min (c - b * p) (min ((b + 1) * p) n - b * p)
    · rw [if_pos (decide_eq_true hfull), if_neg (Nat.not_lt.mpr hfull)]
    · rw [if_neg fun h => hfull (of_decide_eq_true h), if_pos (Nat.not_le.mp hfull)]
  · rw [if_pos (Nat.not_lt.mp hb), if_neg hb]

theorem sum_telescope (f : Nat → Nat) (hf : ∀ b, f b ≤ f (b + 1)) (s n : Nat) :
    ((List.range' s n).map fun b => f (b + 1) - f b).sum + f s = f (s + n) := by
  induction n generalizing s with
  | zero => simp
  | succ n ih =>
    have := hf s
    rw [List.range'_succ, List.map_cons, List.sum_cons, show s + (n + 1) = s + 1 + n by omega,
      ← ih (s + 1)]
    omega

/-- The piece counts of the specification's bins add up to `n`. -/
theorem sum_specBin_piecesInBin (avail : List Nat) (n c : Nat) :
    ((List.range BINS).map fun b => (specBin ops avail n ((n + 199) / 200) c b).piecesInBin).sum = n := by
  let p := (n + 199) / 200
  have hcount : ∀ b, (specBin ops avail n p c b).piecesInBin = min ((b + 1) * p) n - min (b * p) n := by
    intro b
    unfold specBin
    split
    · next hb => dsimp only; rw [Nat.min_eq_left (Nat.le_of_lt hb)]
    · next hb =>
      have : b * p ≤ (b + 1) * p := Nat.mul_le_mul_right _ (Nat.le_succ b)
      dsimp only; omega
  have hmono : ∀ b, min (b * p) n ≤ min ((b + 1) * p) n := fun b => by
    have := Nat.mul_le_mul_right p (Nat.le_add_right b 1)
    omega
  have := sum_telescope (fun b => min (b * p) n) hmono 0 BINS
  simp only [List.range_eq_range', hcount] at this ⊢
  rw [Nat.zero_mul, Nat.min_eq_left (Nat.zero_le _), Nat.add_zero] at this
  rw [this, Nat.zero_add, BINS]
  omega

include hge in
/-- For a record with `1 ≤ N < 2^32` estimated pieces, of which the first `c` are
completed, `get_row_snapshot` returns 200 bins; bin `b` covers the pieces
`[b p, min((b + 1) p, N))` for `p = ceil(N / 200)` when `b p < N` and none otherwise, has
the fraction of them below `c` as its ratio, and, when not complete, the least availability
of its pieces from `max(b p, c)` on; the piece counts add up to `N`.

Both conditions hold of IEEE `f64` (`RowF64.float`) below `2^32`, where every integer is exact.
`hge`: a quotient `a / b` with `a < b < 2^32` is at most `1 - 2^-32` before rounding, and
rounding to nearest keeps it below `1.0`, the doubles below `1.0` being `2^-53` apart; with
`a = b` it is exactly `1.0`. `hceil`: unless `N / 200` is an integer (then exact), it is at
least `1/200` away from one, far more than its rounding error of at most `2^-21`, so the
rounded quotient has the same ceiling. -/
theorem getRowSnapshot_bins
    (hceil : ∀ n, 0 < n → n < 2 ^ 32 → ops.ceilDivNat n BINS = (n + 199) / 200)
    (s : OrcState) (id : String) (r : TorrentRecord) (hr : s.torrents.get? id = some r)
    (hN : 1 ≤ r.runtime.totalPiecesEstimate) (hN32 : r.runtime.totalPiecesEstimate < 2 ^ 32) :
    ∃ snap, getRowSnapshot ops s id = some snap ∧ snap.piecesBins.length = BINS ∧
      snap.piecesBins = (List.range BINS).map (specBin ops r.runtime.pieceAvailability
        r.runtime.totalPiecesEstimate ((r.runtime.totalPiecesEstimate + 199) / 200)
        (completedPieces ops r.runtime)) ∧
      (snap.piecesBins.map (·.piecesInBin)).sum = r.runtime.totalPiecesEstimate := by
  have hmax : max r.runtime.totalPiecesEstimate 1 = r.runtime.totalPiecesEstimate :=
    Nat.max_eq_left hN
  have hbins : (List.range BINS).map (pieceBin ops r.runtime.pieceAvailability
      (max r.runtime.totalPiecesEstimate 1)
      (ops.ceilDivNat (max r.runtime.totalPiecesEstimate 1) BINS) (completedPieces ops r.runtime)) =
      (List.range BINS).map (specBin ops r.runtime.pieceAvailability r.runtime.totalPiecesEstimate
        ((r.runtime.totalPiecesEstimate + 199) / 200) (completedPieces ops r.runtime)) := by
    rw [hmax, hceil _ hN hN32]
    exact List.map_congr_left fun b _ => pieceBin_eq_specBin ops hge _ (by omega) hN32 b
  refine ⟨_, by rw [getRowSnapshot, hr, Option.map_some'], by simp [BINS], hbins, ?_⟩
  dsimp only
  rw [hbins, List.map_map]
  exact sum_specBin_piecesInBin ops _ _ _

end Refinement

/-- Exact fractions meet both conditions, so the theorem covers them: a record of 1000
estimated pieces with 250 of them completed. -/
theorem getRowSnapshot_bins_exact :
    let rt : TorrentRuntime := ⟨0, 4, 1, 0, true, .downloading, 0, 0, 0, [], none, [], StrMap.empty,
      StrMap.empty, none, 0, 0, 0, [], 0, 0, 1000, List.replicate 1000 0, StrMap.empty⟩
    let r : TorrentRecord := ⟨⟨"t", "", 0, true, ⟨.standard, 0⟩, none, none⟩, rt⟩
    let s : OrcState := { newState "" "" 0 0 with torrents := StrMap.empty.insert "t" r }
    (∀ a b, a ≤ b → 0 < b → b < 2 ^ 32 →
      RowF64.exact.geOne (RowF64.exact.divNat a b) = decide (b ≤ a)) ∧
    (∀ n, 0 < n → n < 2 ^ 32 → RowF64.exact.ceilDivNat n BINS = (n + 199) / 200) ∧
    s.torrents.get? "t" = some r ∧ 1 ≤ rt.totalPiecesEstimate ∧ rt.totalPiecesEstimate < 2 ^ 32 ∧
    ∃ snap, getRowSnapshot RowF64.exact s "t" = some snap ∧ snap.piecesBins.length = BINS ∧
      snap.piecesBins = (List.range BINS).map (specBin RowF64.exact rt.pieceAvailability
        rt.totalPiecesEstimate ((rt.totalPiecesEstimate + 199) / 200) (completedPieces RowF64.exact rt)) ∧
      (snap.piecesBins.map (·.piecesInBin)).sum = rt.totalPiecesEstimate := by
  intro rt r s
  have hge : ∀ a b, a ≤ b → 0 < b → b < 2 ^ 32 →
      RowF64.exact.geOne (RowF64.exact.divNat a b) = decide (b ≤ a) := fun _ _ _ _ _ => rfl
  have hceil : ∀ n, 0 < n → n < 2 ^ 32 → RowF64.exact.ceilDivNat n BINS = (n + 199) / 200 :=
    fun _ _ _ => rfl
  exact ⟨hge, hceil, rfl, (by decide : 1 ≤ 1000), (by decide : 1000 < 2 ^ 32),
    getRowSnapshot_bins RowF64.exact hge hceil s "t" r rfl (by decide : 1 ≤ 1000)
      (by decide : 1000 < 2 ^ 32)⟩

end OrcTorrent

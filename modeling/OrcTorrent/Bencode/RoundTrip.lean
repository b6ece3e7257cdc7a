import OrcTorrent.Bencode
import Mathlib.Data.Nat.Digits

/-! The reference bencode encoder, and the round trip: the decoder reads back every
value within its limits from its encoding, inside any prefix and before any suffix
(`parseBencodeWithDepth_enc`). The proof follows the decoder's arms: one lemma per
scanner, one unfolding lemma per arm of `parseWithDepth` and per loop step, and a
`mutual` induction over the value, its list items and its dictionary entries. -/

namespace OrcTorrent

/-! ## Decimal numbers -/

theorem isDigit_iff (b : UInt8) : isDigit b = true ↔ 48 ≤ b.toNat ∧ b.toNat ≤ 57 := by
  simp [isDigit, UInt8.le_def, BitVec.le_def, UInt8.toNat]

/-- The ASCII digit `d`. -/
def digitByte (d : Nat) : UInt8 := UInt8.ofNat (48 + d)

theorem toNat_digitByte {d : Nat} (h : d < 10) : (digitByte d).toNat = 48 + d :=
  UInt8.toNat_ofNat_of_lt (by simp [UInt8.size]; omega)

/-- `n` in decimal, most significant digit first, as `format!("{}", n)` writes it. -/
def decimal (n : Nat) : List UInt8 :=
  if n = 0 then [48] else (Nat.digits 10 n).reverse.map digitByte

theorem decimal_eq_map (n : Nat) : ∃ ds : List Nat, ds ≠ [] ∧ (∀ d ∈ ds, d < 10) ∧
    decimal n = ds.map digitByte ∧ Nat.ofDigits 10 ds.reverse = n ∧
    (n < 10 ^ ds.length) := by
  by_cases h : n = 0
  · exact ⟨[0], by simp, by simp, by simp [decimal, h, digitByte], by simp [h], by simp [h]⟩
  · refine ⟨(Nat.digits 10 n).reverse, by simpa using Nat.digits_ne_nil_iff_ne_zero.mpr h,
      fun d hd => Nat.digits_lt_base (by norm_num) (List.mem_reverse.mp hd),
      by simp [decimal, h], by simp [Nat.ofDigits_digits], ?_⟩
    simpa using @Nat.lt_base_pow_length_digits 10 n (by norm_num)

theorem foldl_digitBytes (ds : List Nat) (hds : ∀ d ∈ ds, d < 10) (acc : Nat) :
    (ds.map digitByte).foldl (fun n b => 10 * n + (b.toNat - 48)) acc =
      ds.foldl (fun n d => 10 * n + d) acc := by
  induction ds generalizing acc with
  | nil => rfl
  | cons d ds ih =>
    simp only [List.map_cons, List.foldl_cons, toNat_digitByte (hds d (by simp))]
    rw [ih (fun d' hd' => hds d' (by simp [hd']))]
    congr 2
    omega

theorem foldl_eq_ofDigits (ds : List Nat) :
    ds.foldl (fun n d => 10 * n + d) 0 = Nat.ofDigits 10 ds.reverse := by
  rw [← List.reverse_reverse ds, List.foldl_reverse, List.reverse_reverse]
  induction ds.reverse with
  | nil => rfl
  | cons d ds ih => simp [Nat.ofDigits_cons, ih]; ring

theorem digitByte_isDigit {d : Nat} (h : d < 10) : isDigit (digitByte d) = true := by
  rw [isDigit_iff, toNat_digitByte h]; omega

theorem mem_decimal {n : Nat} {b : UInt8} (hb : b ∈ decimal n) : isDigit b = true := by
  obtain ⟨ds, -, hds, he, -⟩ := decimal_eq_map n
  rw [he] at hb
  obtain ⟨d, hd, rfl⟩ := List.mem_map.mp hb
  exact digitByte_isDigit (hds d hd)

theorem digitsValue_decimal (n : Nat) : digitsValue (decimal n) = some n := by
  obtain ⟨ds, hne, hds, he, hv, -⟩ := decimal_eq_map n
  have hall : (decimal n).all isDigit = true := List.all_eq_true.mpr fun _ => mem_decimal
  rw [digitsValue, if_pos ⟨by simp [he, hne], hall⟩, he, foldl_digitBytes ds hds,
    foldl_eq_ofDigits, hv]

theorem decimal_length_le (n k : Nat) (hk : 1 ≤ k) (hn : n < 10 ^ k) :
    (decimal n).length ≤ k := by
  by_cases h : n = 0
  · simp [decimal, h, hk]
  · have hle := Nat.base_pow_length_digits_le 10 n (by norm_num) h
    have hlt : 10 ^ (Nat.digits 10 n).length < 10 ^ (k + 1) := by
      calc 10 ^ (Nat.digits 10 n).length ≤ 10 * n := hle
        _ < 10 * 10 ^ k := by omega
        _ = 10 ^ (k + 1) := by ring
    have := (Nat.pow_lt_pow_iff_right (by norm_num)).mp hlt
    simp [decimal, h]; omega

theorem decimal_cons (n : Nat) : ∃ c rest, decimal n = c :: rest ∧ isDigit c = true := by
  obtain ⟨ds, hne, -, he, -⟩ := decimal_eq_map n
  obtain ⟨d, ds', rfl⟩ := List.exists_cons_of_ne_nil hne
  exact ⟨_, _, he, mem_decimal (by rw [he]; exact List.mem_cons_self _ _)⟩

theorem ne_of_isDigit {b : UInt8} (h : isDigit b = true) {c : UInt8}
    (hc : 57 < c.toNat ∨ c.toNat < 48) : b ≠ c := by
  rintro rfl; rw [isDigit_iff] at h; omega

/-- An `i64` in decimal, with a `-` when negative. -/
def intDecimal (n : Int) : List UInt8 :=
  if n < 0 then 45 :: decimal n.natAbs else decimal n.toNat

theorem parseI64_intDecimal {n : Int} (h1 : -2 ^ 63 ≤ n) (h2 : n < 2 ^ 63) :
    parseI64 (intDecimal n) = some n := by
  unfold intDecimal
  split
  · have : n.natAbs ≤ 2 ^ 63 := by omega
    rw [parseI64, if_neg (by decide), if_pos rfl, digitsValue_decimal]
    show (if n.natAbs ≤ 2 ^ 63 then some (-(n.natAbs : Int)) else none) = some n
    rw [if_pos this]
    congr 1; omega
  · obtain ⟨c, rest, he, hc⟩ := decimal_cons n.toNat
    have h43 : c ≠ 43 := ne_of_isDigit hc (by decide)
    have h45 : c ≠ 45 := ne_of_isDigit hc (by decide)
    have : n.toNat < 2 ^ 63 := by omega
    rw [he, parseI64, if_neg h43, if_neg h45, ← he, digitsValue_decimal]
    simp [this]; omega

theorem intDecimal_length {n : Int} (h1 : -2 ^ 63 ≤ n) (h2 : n < 2 ^ 63) :
    (intDecimal n).length ≤ 20 := by
  unfold intDecimal
  split
  · have := decimal_length_le n.natAbs 19 (by norm_num) (by omega)
    simp; omega
  · exact le_trans (decimal_length_le n.toNat 19 (by norm_num) (by omega))
      (by norm_num)

theorem mem_intDecimal {n : Int} {b : UInt8} (hb : b ∈ intDecimal n) :
    isDigit b = true ∨ b = 45 := by
  unfold intDecimal at hb
  split at hb
  · rcases List.mem_cons.mp hb with rfl | hb
    · exact .inr rfl
    · exact .inl (mem_decimal hb)
  · exact .inl (mem_decimal hb)

/-! ## The encoder and the limits -/

mutual

/-- The reference encoder. -/
def enc : BVal → List UInt8
  | .int n => 105 :: intDecimal n ++ [101]
  | .bytes b => decimal b.length ++ 58 :: b
  | .list xs => 108 :: encList xs ++ [101]
  | .dict kvs => 100 :: encDict kvs ++ [101]

def encList : List BVal → List UInt8
  | [] => []
  | x :: xs => enc x ++ encList xs

def encDict : List (List UInt8 × BVal) → List UInt8
  | [] => []
  | (k, v) :: kvs => enc (.bytes k) ++ enc v ++ encDict kvs

end

/-- `v` is within the decoder's limits when read at nesting depth `d`. -/
inductive Fits : Nat → BVal → Prop
  | int {d : Nat} {n : Int} : d ≤ MAX_BENCODE_DEPTH → -2 ^ 63 ≤ n → n < 2 ^ 63 →
      Fits d (.int n)
  | bytes {d : Nat} {b : List UInt8} : d ≤ MAX_BENCODE_DEPTH →
      b.length ≤ MAX_BYTE_STRING_SIZE → Fits d (.bytes b)
  | list {d : Nat} {xs : List BVal} : d ≤ MAX_BENCODE_DEPTH → xs.length ≤ MAX_LIST_ITEMS →
      (∀ x ∈ xs, Fits (d + 1) x) → Fits d (.list xs)
  | dict {d : Nat} {kvs : List (List UInt8 × BVal)} : d ≤ MAX_BENCODE_DEPTH →
      kvs.length ≤ MAX_DICT_ITEMS → (∀ kv ∈ kvs, kv.1.length ≤ MAX_BYTE_STRING_SIZE) →
      (∀ kv ∈ kvs, Fits (d + 1) kv.2) → Fits d (.dict kvs)

theorem Fits.depth_le {d : Nat} {v : BVal} (h : Fits d v) : d ≤ MAX_BENCODE_DEPTH := by
  cases h <;> assumption

/-- Every encoding starts with a byte other than `b'e'`. -/
theorem enc_cons (v : BVal) : ∃ c rest, enc v = c :: rest ∧ c ≠ 101 := by
  cases v with
  | int n => exact ⟨105, intDecimal n ++ [101], by simp [enc], by decide⟩
  | bytes b =>
    obtain ⟨c, rest, he, hc⟩ := decimal_cons b.length
    exact ⟨c, rest ++ 58 :: b, by simp [enc, he], ne_of_isDigit hc (by decide)⟩
  | list xs => exact ⟨108, encList xs ++ [101], by simp [enc], by decide⟩
  | dict kvs => exact ⟨100, encDict kvs ++ [101], by simp [enc], by decide⟩

/-! ## Scanners on an encoding -/

theorem getElem?_length_append {α : Type} (pre rest : List α) (x : α) :
    (pre ++ x :: rest)[pre.length]? = some x := by
  rw [List.getElem?_append_right (Nat.le_refl _)]; simp

theorem scanUntil_segment (pre seg post : List UInt8) (stop : UInt8) (fuel : Nat)
    (hseg : ∀ b ∈ seg, b ≠ stop) (hlen : seg.length ≤ fuel) :
    scanUntil (pre ++ seg ++ stop :: post) stop fuel pre.length = pre.length + seg.length := by
  induction seg generalizing pre fuel with
  | nil =>
    cases fuel with
    | zero => simp [scanUntil]
    | succ f =>
      have hget : (pre ++ [] ++ stop :: post)[pre.length]? = some stop := by
        rw [List.append_nil]; exact getElem?_length_append pre post stop
      simp only [scanUntil, hget, if_pos]; simp
  | cons c seg ih =>
    obtain ⟨f, rfl⟩ : ∃ f, fuel = f + 1 := ⟨fuel - 1, by simp at hlen; omega⟩
    have hget : (pre ++ c :: seg ++ stop :: post)[pre.length]? = some c := by
      rw [List.append_assoc, List.cons_append]; exact getElem?_length_append _ _ _
    have heq : pre ++ c :: seg ++ stop :: post = pre ++ [c] ++ seg ++ stop :: post := by simp
    simp only [scanUntil, hget, if_neg (hseg c (List.mem_cons_self _ _))]
    rw [heq, show pre.length + 1 = (pre ++ [c]).length by simp,
      ih (pre ++ [c]) f (fun b hb => hseg b (List.mem_cons_of_mem _ hb))
        (by simp at hlen; omega)]
    simp; omega

theorem getElem?_head {p s r : List UInt8} (c : UInt8) (rest : List UInt8) (h : s = c :: rest) :
    (p ++ s ++ r)[p.length]? = some c := by
  subst h; rw [List.append_assoc, List.cons_append]; exact getElem?_length_append _ _ _

theorem slice_segment (pre seg post : List UInt8) :
    slice (pre ++ seg ++ post) pre.length (pre.length + seg.length) = seg := by
  simp [slice, List.append_assoc]

theorem parseUsize_decimal {m : Nat} (h : m < 2 ^ 64) : parseUsize (decimal m) = some m := by
  obtain ⟨c, rest, he, hc⟩ := decimal_cons m
  rw [he, parseUsize, parseUnsigned, if_neg (ne_of_isDigit hc (by decide)), ← he,
    digitsValue_decimal]
  simpa using h

theorem parseIntAt_enc (p r : List UInt8) {n : Int} (h1 : -2 ^ 63 ≤ n) (h2 : n < 2 ^ 63) :
    (parseIntAt (p ++ enc (.int n) ++ r) p.length).map Subtype.val =
      .ok (.int n, p.length + (enc (.int n)).length) := by
  have hin : p ++ enc (.int n) ++ r = p ++ [105] ++ intDecimal n ++ 101 :: r := by simp [enc]
  have hseg : ∀ b ∈ intDecimal n, b ≠ 101 := fun b hb => by
    rcases mem_intDecimal hb with h | rfl
    · exact ne_of_isDigit h (by decide)
    · decide
  have hpre : (p ++ [105]).length = p.length + 1 := by simp
  have hscan := scanUntil_segment (p ++ [105]) (intDecimal n) r 101 20 hseg
    (intDecimal_length h1 h2)
  have hj := getElem?_length_append (p ++ [105] ++ intDecimal n) r 101
  have hsl := slice_segment (p ++ [105]) (intDecimal n) (101 :: r)
  rw [hpre] at hscan hsl
  rw [List.length_append, hpre] at hj
  rw [hin, parseIntAt_ok n (by rw [hscan]; exact hj)
    (by rw [hscan, hsl]; exact parseI64_intDecimal h1 h2), hscan]
  simp [enc]; omega

theorem parseBytesAt_enc (p r b : List UInt8) (hb : b.length ≤ MAX_BYTE_STRING_SIZE) :
    (parseBytesAt (p ++ enc (.bytes b) ++ r) p.length).map Subtype.val =
      .ok (.bytes b, p.length + (enc (.bytes b)).length) := by
  have hin : p ++ enc (.bytes b) ++ r = p ++ decimal b.length ++ 58 :: (b ++ r) := by simp [enc]
  have hseg : ∀ c ∈ decimal b.length, c ≠ 58 := fun c hc =>
    ne_of_isDigit (mem_decimal hc) (by decide)
  have hL : (decimal b.length).length ≤ 10 :=
    decimal_length_le _ 10 (by norm_num) (by unfold MAX_BYTE_STRING_SIZE at hb; omega)
  have hmax : b.length < 2 ^ 64 := by unfold MAX_BYTE_STRING_SIZE at hb; omega
  have hscan := scanUntil_segment p (decimal b.length) (b ++ r) 58 10 hseg hL
  have hj := getElem?_length_append (p ++ decimal b.length) (b ++ r) 58
  have hlen := slice_segment p (decimal b.length) (58 :: (b ++ r))
  have hsl := slice_segment (p ++ decimal b.length ++ [58]) b r
  have hX : p ++ decimal b.length ++ [58] ++ b ++ r = p ++ decimal b.length ++ 58 :: (b ++ r) := by
    simp
  rw [hX] at hsl
  rw [List.length_append] at hj
  simp only [List.length_append, List.length_singleton] at hsl
  rw [hin, parseBytesAt_ok b.length (by rw [hscan]; exact hj)
    (by rw [hscan, hlen]; exact parseUsize_decimal hmax) hb
    (by rw [hscan]; simp; omega), hscan, hsl]
  simp [enc]; omega

/-! ## The round trip -/

section RoundTrip

variable {d : Nat} {p r : List UInt8}

theorem parseWithDepth_enc_int {n : Int} (hd : d ≤ MAX_BENCODE_DEPTH) (h1 : -2 ^ 63 ≤ n)
    (h2 : n < 2 ^ 63) (hs : (p ++ enc (.int n) ++ r).length ≤ MAX_BENCODE_SIZE) :
    (parseWithDepth (p ++ enc (.int n) ++ r) p.length d).map Subtype.val =
      .ok (.int n, p.length + (enc (.int n)).length) := by
  rw [parseWithDepth_dispatch hd hs (getElem?_head 105 (intDecimal n ++ [101]) (by simp [enc])), if_pos rfl]
  exact parseIntAt_enc p r h1 h2

theorem parseWithDepth_enc_bytes {b : List UInt8} (hd : d ≤ MAX_BENCODE_DEPTH)
    (hb : b.length ≤ MAX_BYTE_STRING_SIZE)
    (hs : (p ++ enc (.bytes b) ++ r).length ≤ MAX_BENCODE_SIZE) :
    (parseWithDepth (p ++ enc (.bytes b) ++ r) p.length d).map Subtype.val =
      .ok (.bytes b, p.length + (enc (.bytes b)).length) := by
  obtain ⟨c, rest, he, hc⟩ := decimal_cons b.length
  rw [parseWithDepth_dispatch hd hs (getElem?_head c (rest ++ 58 :: b) (by simp [enc, he])),
    if_neg (ne_of_isDigit hc (by decide)), if_neg (ne_of_isDigit hc (by decide)),
    if_neg (ne_of_isDigit hc (by decide)), if_pos hc]
  exact parseBytesAt_enc p r b hb

mutual

theorem parseWithDepth_enc (v : BVal) (d : Nat) (p r : List UInt8) (hv : Fits d v)
    (hs : (p ++ enc v ++ r).length ≤ MAX_BENCODE_SIZE) :
    (parseWithDepth (p ++ enc v ++ r) p.length d).map Subtype.val =
      .ok (v, p.length + (enc v).length) := by
  match v, hv with
  | .int n, .int hd h1 h2 => exact parseWithDepth_enc_int hd h1 h2 hs
  | .bytes b, .bytes hd hb => exact parseWithDepth_enc_bytes hd hb hs
  | .list xs, .list hd hlen hxs =>
    have hin : p ++ enc (.list xs) ++ r = p ++ [108] ++ encList xs ++ 101 :: r := by simp [enc]
    rw [parseWithDepth_dispatch hd hs
      (getElem?_head 108 (encList xs ++ [101]) (by simp [enc])), if_neg (by decide),
      if_pos rfl, hin]
    have := parseListItems_enc xs [] d (p ++ [108]) r hxs (by simpa using hlen) (by
      rw [← hin]; exact hs)
    rw [show (p ++ [(108 : UInt8)]).length = p.length + 1 by simp, List.nil_append] at this
    rw [this]; simp [enc]; omega
  | .dict kvs, .dict hd hlen hks hvs =>
    have hin : p ++ enc (.dict kvs) ++ r = p ++ [100] ++ encDict kvs ++ 101 :: r := by simp [enc]
    rw [parseWithDepth_dispatch hd hs
      (getElem?_head 100 (encDict kvs ++ [101]) (by simp [enc])),
      if_neg (by decide), if_neg (by decide), if_pos rfl, hin]
    have := parseDictItems_enc kvs [] d (p ++ [100]) r hks hvs (by simpa using hlen) (by
      rw [← hin]; exact hs)
    rw [show (p ++ [(100 : UInt8)]).length = p.length + 1 by simp, List.nil_append] at this
    rw [this]; simp [enc]; omega
termination_by sizeOf v
decreasing_by
  all_goals simp only [BVal.list.sizeOf_spec, BVal.dict.sizeOf_spec, List.cons.sizeOf_spec,
    Prod.mk.sizeOf_spec]; omega

theorem parseListItems_enc (xs items : List BVal) (d : Nat) (p r : List UInt8)
    (hxs : ∀ x ∈ xs, Fits (d + 1) x) (hlen : items.length + xs.length ≤ MAX_LIST_ITEMS)
    (hs : (p ++ encList xs ++ 101 :: r).length ≤ MAX_BENCODE_SIZE) :
    (parseListItems (p ++ encList xs ++ 101 :: r) d p.length items).map Subtype.val =
      .ok (.list (items ++ xs), p.length + (encList xs).length + 1) := by
  match xs with
  | [] => simpa [encList] using parseListItems_end (getElem?_length_append p r 101)
  | x :: xs =>
    obtain ⟨c, rest, he, hc⟩ := enc_cons x
    have hin : p ++ encList (x :: xs) ++ 101 :: r = p ++ enc x ++ (encList xs ++ 101 :: r) := by
      simp [encList]
    have hin' : p ++ encList (x :: xs) ++ 101 :: r = p ++ enc x ++ encList xs ++ 101 :: r := by
      simp [encList]
    have hx := parseWithDepth_enc x (d + 1) p (encList xs ++ 101 :: r)
      (hxs x (List.mem_cons_self _ _)) (by rw [← hin]; exact hs)
    rw [hin, parseListItems_step (getElem?_head c rest he) hc (by simp at hlen; omega) hx, ← hin, hin']
    have := parseListItems_enc xs (items ++ [x]) d (p ++ enc x) r
      (fun y hy => hxs y (List.mem_cons_of_mem _ hy)) (by simp at hlen ⊢; omega)
      (by rw [← hin']; exact hs)
    rw [List.length_append] at this
    rw [this]; simp [encList]; omega
termination_by sizeOf xs
decreasing_by
  all_goals simp only [BVal.list.sizeOf_spec, BVal.dict.sizeOf_spec, List.cons.sizeOf_spec,
    Prod.mk.sizeOf_spec]; omega

theorem parseDictItems_enc (kvs items : List (List UInt8 × BVal)) (d : Nat) (p r : List UInt8)
    (hks : ∀ kv ∈ kvs, kv.1.length ≤ MAX_BYTE_STRING_SIZE) (hvs : ∀ kv ∈ kvs, Fits (d + 1) kv.2)
    (hlen : items.length + kvs.length ≤ MAX_DICT_ITEMS)
    (hs : (p ++ encDict kvs ++ 101 :: r).length ≤ MAX_BENCODE_SIZE) :
    (parseDictItems (p ++ encDict kvs ++ 101 :: r) d p.length items).map Subtype.val =
      .ok (.dict (items ++ kvs), p.length + (encDict kvs).length + 1) := by
  match kvs with
  | [] => simpa [encDict] using parseDictItems_end (getElem?_length_append p r 101)
  | (k, v) :: kvs =>
    obtain ⟨c, rest, he, hc⟩ := enc_cons (.bytes k)
    have hv1 := hvs (k, v) (List.mem_cons_self _ _)
    have hdv : d + 1 ≤ MAX_BENCODE_DEPTH := hv1.depth_le
    have hin : p ++ encDict ((k, v) :: kvs) ++ 101 :: r =
        p ++ enc (.bytes k) ++ (enc v ++ encDict kvs ++ 101 :: r) := by simp [encDict]
    have hin2 : p ++ encDict ((k, v) :: kvs) ++ 101 :: r =
        (p ++ enc (.bytes k)) ++ enc v ++ (encDict kvs ++ 101 :: r) := by simp [encDict]
    have hin3 : p ++ encDict ((k, v) :: kvs) ++ 101 :: r =
        (p ++ enc (.bytes k) ++ enc v) ++ encDict kvs ++ 101 :: r := by simp [encDict]
    have hk : (parseWithDepth (p ++ enc (.bytes k) ++ (enc v ++ encDict kvs ++ 101 :: r))
        p.length (d + 1)).map Subtype.val = .ok (.bytes k, p.length + (enc (.bytes k)).length) :=
      parseWithDepth_enc_bytes hdv (hks (k, v) (List.mem_cons_self _ _)) (by rw [← hin]; exact hs)
    have hhead : (p ++ encDict ((k, v) :: kvs) ++ 101 :: r)[p.length]? = some c := by
      rw [hin]; exact getElem?_head c rest he
    have hval := parseWithDepth_enc v (d + 1) (p ++ enc (.bytes k)) (encDict kvs ++ 101 :: r)
      hv1 (by rw [← hin2]; exact hs)
    rw [← hin] at hk
    rw [← hin2, List.length_append] at hval
    rw [parseDictItems_step hhead hc (by simp at hlen; omega) hk hval, hin3]
    have := parseDictItems_enc kvs (items ++ [(k, v)]) d (p ++ enc (.bytes k) ++ enc v) r
      (fun kv hkv => hks kv (List.mem_cons_of_mem _ hkv))
      (fun kv hkv => hvs kv (List.mem_cons_of_mem _ hkv)) (by simp at hlen ⊢; omega)
      (by rw [← hin3]; exact hs)
    rw [show (p ++ enc (.bytes k) ++ enc v).length =
      p.length + (enc (.bytes k)).length + (enc v).length by simp; omega] at this
    rw [this]; simp [encDict]; omega
termination_by sizeOf kvs
decreasing_by
  all_goals simp only [BVal.list.sizeOf_spec, BVal.dict.sizeOf_spec, List.cons.sizeOf_spec,
    Prod.mk.sizeOf_spec]; omega

end

end RoundTrip

/-- **Round trip.** Every value within the decoder's limits is read back from its
encoding, whatever bytes come before and after it. -/
theorem parseBencodeWithDepth_enc (v : BVal) (p r : List UInt8) (hv : Fits 0 v)
    (hs : (p ++ enc v ++ r).length ≤ MAX_BENCODE_SIZE) :
    parseBencodeWithDepth (p ++ enc v ++ r) p.length 0 = .ok (v, p.length + (enc v).length) :=
  parseWithDepth_enc v 0 p r hv hs

/-- `d1:ali7e2:xyee`: a dictionary whose one entry is a list of an integer and a byte string. -/
def sampleBVal : BVal := .dict [([97], .list [.int 7, .bytes [120, 121]])]

theorem enc_sampleBVal :
    enc sampleBVal = [100, 49, 58, 97, 108, 105, 55, 101, 50, 58, 120, 121, 101, 101] := by
  simp [sampleBVal, enc, encList, encDict, intDecimal, decimal, digitByte]

theorem fits_sampleBVal : Fits 0 sampleBVal := by
  refine .dict (by decide) (by decide) (by simp [MAX_BYTE_STRING_SIZE]) fun kv hkv => ?_
  rw [List.mem_singleton.mp hkv]
  refine .list (by decide) (by decide) fun x hx => ?_
  simp only [List.mem_cons, List.mem_singleton, List.not_mem_nil, or_false] at hx
  rcases hx with rfl | rfl
  · exact .int (by decide) (by decide) (by decide)
  · exact .bytes (by decide) (by decide)

/-- The nested sample value, between two bytes of other data before it and one after. -/
theorem parseBencodeWithDepth_enc_nested :
    let p : List UInt8 := [120, 120]
    let r : List UInt8 := [120]
    Fits 0 sampleBVal ∧ (p ++ enc sampleBVal ++ r).length ≤ MAX_BENCODE_SIZE ∧
      parseBencodeWithDepth (p ++ enc sampleBVal ++ r) p.length 0 =
        .ok (sampleBVal, p.length + (enc sampleBVal).length) :=
  have hs : ([120, 120] ++ enc sampleBVal ++ [120]).length ≤ MAX_BENCODE_SIZE := by
    rw [enc_sampleBVal]; decide
  ⟨fits_sampleBVal, hs, parseBencodeWithDepth_enc sampleBVal [120, 120] [120] fits_sampleBVal hs⟩

end OrcTorrent

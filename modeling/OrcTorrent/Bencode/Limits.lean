import OrcTorrent.Bencode.InfoHash

/-! The converse of the round trip: every value the decoder accepts is within its limits.
An accepted input has at most `MAX_BENCODE_SIZE` bytes and its value `Fits` at depth 0:
byte strings and dictionary keys of at most `MAX_BYTE_STRING_SIZE` bytes, lists and
dictionaries of at most 100000 entries, integers in the `i64` range, and every node at a
depth of at most `MAX_BENCODE_DEPTH` (`parseBencode_limits`). The proofs follow the
decoder's own recursion, from one inversion lemma per function of the decoder.

The decoder is total: its recursion and its loops are well founded on `input.len() - i`,
because every value read ends past its start. Every successful read also ends within the
input, so that measure strictly decreases (`parseBencodeWithDepth_progress`). Its indexes
are checked against the length, and the two arms that slice the input, evaluated with
Rust's panicking slices (`sliceChecked`), return what the model returns at every offset
and never panic. -/

namespace OrcTorrent

theorem parseI64_range {s : List UInt8} {n : Int} (h : parseI64 s = some n) :
    -2 ^ 63 ≤ n ∧ n < 2 ^ 63 := by
  match s with
  | [] => cases h
  | c :: rest =>
    simp only [parseI64] at h
    split_ifs at h <;>
    · obtain ⟨m, -, hm⟩ := Option.bind_eq_some.mp h
      split at hm <;> cases hm
      omega

/-! ## What a successful read is made of

One inversion lemma per function of the decoder: the guards a successful read passed and
the reads it is assembled from. -/

section Inversion

variable {input : List UInt8} {i depth : Nat} {r : Parsed i}

theorem parseIntAt_ok_cases (h : parseIntAt input i = .ok r) :
    ∃ n, scanUntil input 101 20 (i + 1) < input.length ∧
      parseI64 (slice input (i + 1) (scanUntil input 101 20 (i + 1))) = some n ∧
      r.1 = (.int n, scanUntil input 101 20 (i + 1) + 1) := by
  unfold parseIntAt at h
  dsimp only at h
  split at h
  · next hj =>
    split at h
    · cases h
    · split at h
      · next n hn => cases h; exact ⟨n, hj, hn, rfl⟩
      · cases h
  · cases h

theorem parseBytesAt_ok_cases (h : parseBytesAt input i = .ok r) :
    ∃ len, scanUntil input 58 10 i < input.length ∧
      parseUsize (slice input i (scanUntil input 58 10 i)) = some len ∧
      len ≤ MAX_BYTE_STRING_SIZE ∧ scanUntil input 58 10 i + 1 + len ≤ input.length ∧
      r.1 = (.bytes (slice input (scanUntil input 58 10 i + 1) (scanUntil input 58 10 i + 1 + len)),
        scanUntil input 58 10 i + 1 + len) := by
  unfold parseBytesAt at h
  dsimp only at h
  split at h
  · next hj =>
    split at h
    · cases h
    · split at h
      · next len hlen =>
        split at h
        · cases h
        next hmax =>
        split at h
        · cases h
        · next hend =>
          cases h; exact ⟨len, hj, hlen, Nat.not_lt.mp hmax, Nat.not_lt.mp hend, rfl⟩
      · cases h
  · cases h

theorem parseWithDepth_ok_cases (h : parseWithDepth input i depth = .ok r) :
    depth ≤ MAX_BENCODE_DEPTH ∧ input.length ≤ MAX_BENCODE_SIZE ∧ i < input.length ∧
      (parseIntAt input i = .ok r ∨
        (∃ r' : Parsed (i + 1), parseListItems input depth (i + 1) [] = .ok r' ∧ r.1 = r'.1) ∨
        (∃ r' : Parsed (i + 1), parseDictItems input depth (i + 1) [] = .ok r' ∧ r.1 = r'.1) ∨
        parseBytesAt input i = .ok r) := by
  rw [parseWithDepth] at h
  by_cases hd : depth > MAX_BENCODE_DEPTH
  · rw [if_pos hd] at h; cases h
  by_cases hs : input.length > MAX_BENCODE_SIZE
  · rw [if_neg hd, if_pos hs] at h; cases h
  by_cases hi : i < input.length
  swap
  · rw [if_neg hd, if_neg hs, dif_neg hi] at h; cases h
  rw [if_neg hd, if_neg hs, dif_pos hi] at h
  dsimp only at h
  refine ⟨Nat.not_lt.mp hd, Nat.not_lt.mp hs, hi, ?_⟩
  split at h
  · exact .inl h
  split at h
  · split at h
    · next r' hr => cases h; exact .inr (.inl ⟨r', hr, rfl⟩)
    · cases h
  split at h
  · split at h
    · next r' hr => cases h; exact .inr (.inr (.inl ⟨r', hr, rfl⟩))
    · cases h
  split at h
  · exact .inr (.inr (.inr h))
  · cases h

theorem parseListItems_ok_cases {items : List BVal} (h : parseListItems input depth i items = .ok r) :
    i < input.length ∧ (r.1 = (.list items, i + 1) ∨
      ∃ v ni hni, ∃ r' : Parsed ni, items.length < MAX_LIST_ITEMS ∧
        parseWithDepth input i (depth + 1) = .ok ⟨(v, ni), hni⟩ ∧
        parseListItems input depth ni (items ++ [v]) = .ok r' ∧ r.1 = r'.1) := by
  rw [parseListItems] at h
  split at h
  · next hi =>
    refine ⟨hi, ?_⟩
    split at h
    · cases h; exact .inl rfl
    split at h
    · cases h
    next hmax =>
    split at h
    · cases h
    · next v ni hni hv =>
      split at h
      · next r' hr => cases h; exact .inr ⟨v, ni, hni, r', Nat.not_le.mp hmax, hv, hr, rfl⟩
      · cases h
  · cases h

theorem parseDictItems_ok_cases {items : List (List UInt8 × BVal)}
    (h : parseDictItems input depth i items = .ok r) :
    i < input.length ∧ (r.1 = (.dict items, i + 1) ∨
      ∃ key ni hni v ni2 hni2, ∃ r' : Parsed ni2, items.length < MAX_DICT_ITEMS ∧
        parseWithDepth input i (depth + 1) = .ok ⟨(.bytes key, ni), hni⟩ ∧
        parseWithDepth input ni (depth + 1) = .ok ⟨(v, ni2), hni2⟩ ∧
        parseDictItems input depth ni2 (items ++ [(key, v)]) = .ok r' ∧ r.1 = r'.1) := by
  rw [parseDictItems] at h
  split at h
  · next hi =>
    refine ⟨hi, ?_⟩
    split at h
    · cases h; exact .inl rfl
    split at h
    · cases h
    next hmax =>
    split at h
    · cases h
    · next key ni hni hk =>
      split at h
      · cases h
      · next v ni2 hni2 hv =>
        split at h
        · next r' hr =>
          cases h; exact .inr ⟨key, ni, hni, v, ni2, hni2, r', Nat.not_le.mp hmax, hk, hv, hr, rfl⟩
        · cases h
    · cases h
  · cases h

end Inversion

/-! ## Every accepted value is within the limits -/

section Arms

variable {input : List UInt8} {i d : Nat} {r : Parsed i}

theorem parseIntAt_fits (h : parseIntAt input i = .ok r) (hd : d ≤ MAX_BENCODE_DEPTH) :
    Fits d r.1.1 := by
  obtain ⟨n, -, hn, he⟩ := parseIntAt_ok_cases h
  obtain ⟨h1, h2⟩ := parseI64_range hn
  rw [he]; exact .int hd h1 h2

theorem slice_length_le (input : List UInt8) (start stop : Nat) :
    (slice input start stop).length ≤ stop - start :=
  List.length_take_le _ _

theorem parseBytesAt_fits (h : parseBytesAt input i = .ok r) (hd : d ≤ MAX_BENCODE_DEPTH) :
    Fits d r.1.1 := by
  obtain ⟨len, -, -, hmax, -, he⟩ := parseBytesAt_ok_cases h
  rw [he]; exact .bytes hd ((slice_length_le _ _ _).trans (by omega))

end Arms

mutual

theorem parseWithDepth_fits (input : List UInt8) (i depth : Nat) (r : Parsed i)
    (h : parseWithDepth input i depth = .ok r) :
    input.length ≤ MAX_BENCODE_SIZE ∧ Fits depth r.1.1 := by
  obtain ⟨hd, hs, hi, h | ⟨r', hr, he⟩ | ⟨r', hr, he⟩ | h⟩ := parseWithDepth_ok_cases h
  · exact ⟨hs, parseIntAt_fits h hd⟩
  · rw [he]; exact ⟨hs, parseListItems_fits input depth (i + 1) [] r' hr (by simp) (by simp) hd⟩
  · rw [he]
    exact ⟨hs, parseDictItems_fits input depth (i + 1) [] r' hr (by simp) (by simp) (by simp) hd⟩
  · exact ⟨hs, parseBytesAt_fits h hd⟩
termination_by 2 * (input.length - i)
decreasing_by all_goals omega

theorem parseListItems_fits (input : List UInt8) (depth i : Nat) (items : List BVal) (r : Parsed i)
    (h : parseListItems input depth i items = .ok r) (hitems : ∀ x ∈ items, Fits (depth + 1) x)
    (hlen : items.length ≤ MAX_LIST_ITEMS) (hd : depth ≤ MAX_BENCODE_DEPTH) : Fits depth r.1.1 := by
  obtain ⟨hi, he | ⟨v, ni, hni, r', hmax, hv, hr, he⟩⟩ := parseListItems_ok_cases h
  · rw [he]; exact .list hd hlen hitems
  · have hvfits := (parseWithDepth_fits input i (depth + 1) _ hv).2
    rw [he]
    exact parseListItems_fits input depth ni (items ++ [v]) r' hr
      (fun x hx => (List.mem_append.mp hx).elim (hitems x) fun hx => List.mem_singleton.mp hx ▸ hvfits)
      (by simp only [List.length_append, List.length_singleton]; omega) hd
termination_by 2 * (input.length - i) + 1
decreasing_by all_goals omega

theorem parseDictItems_fits (input : List UInt8) (depth i : Nat) (items : List (List UInt8 × BVal))
    (r : Parsed i) (h : parseDictItems input depth i items = .ok r)
    (hkeys : ∀ kv ∈ items, kv.1.length ≤ MAX_BYTE_STRING_SIZE)
    (hitems : ∀ kv ∈ items, Fits (depth + 1) kv.2)
    (hlen : items.length ≤ MAX_DICT_ITEMS) (hd : depth ≤ MAX_BENCODE_DEPTH) : Fits depth r.1.1 := by
  obtain ⟨hi, he | ⟨key, ni, hni, v, ni2, hni2, r', hmax, hk, hv, hr, he⟩⟩ :=
    parseDictItems_ok_cases h
  · rw [he]; exact .dict hd hlen hkeys hitems
  · have hkfits := (parseWithDepth_fits input i (depth + 1) _ hk).2
    have hvfits := (parseWithDepth_fits input ni (depth + 1) _ hv).2
    have hklen : key.length ≤ MAX_BYTE_STRING_SIZE := by cases hkfits; assumption
    rw [he]
    exact parseDictItems_fits input depth ni2 (items ++ [(key, v)]) r' hr
      (fun kv hkv => (List.mem_append.mp hkv).elim (hkeys kv)
        fun hkv => List.mem_singleton.mp hkv ▸ hklen)
      (fun kv hkv => (List.mem_append.mp hkv).elim (hitems kv)
        fun hkv => List.mem_singleton.mp hkv ▸ hvfits)
      (by simp only [List.length_append, List.length_singleton]; omega) hd
termination_by 2 * (input.length - i) + 1
decreasing_by all_goals omega

end

/-- Every input `parse_bencode` accepts is within the size limit, and the value it reads
is within every limit of the decoder, with its root at depth 0. -/
theorem parseBencode_limits (input : List UInt8) (i : Nat) (v : BVal) (j : Nat)
    (h : parseBencode input i = .ok (v, j)) : input.length ≤ MAX_BENCODE_SIZE ∧ Fits 0 v := by
  unfold parseBencode parseBencodeWithDepth at h
  cases hp : parseWithDepth input i 0 with
  | error e => simp [hp, Except.map] at h
  | ok r =>
    simp only [hp, Except.map, Except.ok.injEq] at h
    obtain ⟨hs, hv⟩ := parseWithDepth_fits input i 0 r hp
    rw [h] at hv
    exact ⟨hs, hv⟩

/-- `d1:ali7e2:xyee`, a dictionary holding a list, decoded: its value fits at depth 0. -/
theorem parseBencode_limits_of_nested :
    parseBencode [100, 49, 58, 97, 108, 105, 55, 101, 50, 58, 120, 121, 101, 101] 0 =
        .ok (sampleBVal, 14) ∧
      [100, 49, 58, 97, 108, 105, 55, 101, 50, 58, 120, 121, 101, 101].length ≤ MAX_BENCODE_SIZE ∧
      Fits 0 sampleBVal := by
  have hp : parseBencode [100, 49, 58, 97, 108, 105, 55, 101, 50, 58, 120, 121, 101, 101] 0 =
      .ok (sampleBVal, 14) := by
    simpa [parseBencode, parseBencodeWithDepth, enc_sampleBVal] using
      parseWithDepth_enc sampleBVal 0 [] [] fits_sampleBVal (by rw [enc_sampleBVal]; decide)
  exact ⟨hp, parseBencode_limits _ 0 _ 14 hp⟩

/-! ## Slices and progress -/

/-- The `b'i'` arm with `&input[start..i]` evaluated as Rust does, where a slice out of
range panics. -/
def parseIntAtChecked (input : List UInt8) (i : Nat) :
    Except Panic (Except BencodeError (Parsed i)) :=
  let start := i + 1
  let j := scanUntil input 101 20 start
  if h : j < input.length then
    if 20 ≤ j - start ∧ input[j] ≠ 101 then pure (.error .integerTooLong)
    else do
      let digits ← sliceChecked input start j
      match parseI64 digits with
      | some n => pure (.ok ⟨(.int n, j + 1), by have := le_scanUntil input 101 20 start; omega⟩)
      | none => pure (.error .invalidNumber)
  else pure (.error .unterminatedInt)

/-- The `b'0'..=b'9'` arm with `&input[start..i]` and `input[i..end]` evaluated as Rust
does, where a slice out of range panics. -/
def parseBytesAtChecked (input : List UInt8) (i : Nat) :
    Except Panic (Except BencodeError (Parsed i)) :=
  let j := scanUntil input 58 10 i
  if h : j < input.length then
    if 10 ≤ j - i ∧ input[j] ≠ 58 then pure (.error .bytesLengthTooLong)
    else do
      let digits ← sliceChecked input i j
      match parseUsize digits with
      | some len =>
        if len > MAX_BYTE_STRING_SIZE then pure (.error .byteStringTooLarge)
        else if j + 1 + len > input.length then pure (.error .bytesOutOfRange)
        else do
          let b ← sliceChecked input (j + 1) (j + 1 + len)
          pure (.ok ⟨(.bytes b, j + 1 + len), by have := le_scanUntil input 58 10 i; omega⟩)
      | none => pure (.error .invalidNumber)
  else pure (.error .invalidBytesLength)

/-- The `b'i'` arm never panics: its slice lies within the input. -/
theorem parseIntAtChecked_eq (input : List UInt8) (i : Nat) :
    parseIntAtChecked input i = .ok (parseIntAt input i) := by
  unfold parseIntAtChecked parseIntAt
  dsimp only
  by_cases h : scanUntil input 101 20 (i + 1) < input.length
  · rw [dif_pos h, dif_pos h]
    by_cases hc : 20 ≤ scanUntil input 101 20 (i + 1) - (i + 1) ∧
        input[scanUntil input 101 20 (i + 1)] ≠ 101
    · rw [if_pos hc, if_pos hc]; rfl
    · rw [if_neg hc, if_neg hc, sliceChecked_of_le (le_scanUntil ..) h.le]
      dsimp only [bind, Except.bind]
      cases parseI64 (slice input (i + 1) (scanUntil input 101 20 (i + 1))) <;> rfl
  · rw [dif_neg h, dif_neg h]; rfl

/-- The `b'0'..=b'9'` arm never panics: both its slices lie within the input. -/
theorem parseBytesAtChecked_eq (input : List UInt8) (i : Nat) :
    parseBytesAtChecked input i = .ok (parseBytesAt input i) := by
  unfold parseBytesAtChecked parseBytesAt
  dsimp only
  by_cases h : scanUntil input 58 10 i < input.length
  · rw [dif_pos h, dif_pos h]
    by_cases hc : 10 ≤ scanUntil input 58 10 i - i ∧ input[scanUntil input 58 10 i] ≠ 58
    · rw [if_pos hc, if_pos hc]; rfl
    · rw [if_neg hc, if_neg hc, sliceChecked_of_le (le_scanUntil ..) h.le]
      dsimp only [bind, Except.bind]
      cases parseUsize (slice input i (scanUntil input 58 10 i)) with
      | none => rfl
      | some len =>
        dsimp only
        by_cases hmax : len > MAX_BYTE_STRING_SIZE
        · rw [if_pos hmax, if_pos hmax]; rfl
        rw [if_neg hmax, if_neg hmax]
        by_cases hend : scanUntil input 58 10 i + 1 + len > input.length
        · rw [if_pos hend, if_pos hend]; rfl
        · rw [if_neg hend, if_neg hend,
            sliceChecked_of_le (Nat.le_add_right _ _) (Nat.not_lt.mp hend)]; rfl
  · rw [dif_neg h, dif_neg h]; rfl

section Progress

variable {input : List UInt8} {i : Nat} {r : Parsed i}

theorem parseIntAt_end_le (h : parseIntAt input i = .ok r) : r.1.2 ≤ input.length := by
  obtain ⟨n, hj, -, he⟩ := parseIntAt_ok_cases h
  rw [he]; exact hj

theorem parseBytesAt_end_le (h : parseBytesAt input i = .ok r) : r.1.2 ≤ input.length := by
  obtain ⟨len, -, -, -, hend, he⟩ := parseBytesAt_ok_cases h
  rw [he]; exact hend

end Progress

/-- The list loop ends at the `e` that closes it, within the input. -/
theorem parseListItems_end_le (input : List UInt8) (depth i : Nat) (items : List BVal)
    (r : Parsed i) (h : parseListItems input depth i items = .ok r) : r.1.2 ≤ input.length := by
  obtain ⟨hi, he | ⟨v, ni, hni, r', -, -, hr, he⟩⟩ := parseListItems_ok_cases h
  · rw [he]; exact hi
  · rw [he]; exact parseListItems_end_le input depth ni (items ++ [v]) r' hr
termination_by input.length - i
decreasing_by omega

/-- The dictionary loop ends at the `e` that closes it, within the input. -/
theorem parseDictItems_end_le (input : List UInt8) (depth i : Nat)
    (items : List (List UInt8 × BVal)) (r : Parsed i)
    (h : parseDictItems input depth i items = .ok r) : r.1.2 ≤ input.length := by
  obtain ⟨hi, he | ⟨key, ni, hni, v, ni2, hni2, r', -, -, -, hr, he⟩⟩ := parseDictItems_ok_cases h
  · rw [he]; exact hi
  · rw [he]; exact parseDictItems_end_le input depth ni2 (items ++ [(key, v)]) r' hr
termination_by input.length - i
decreasing_by omega

theorem parseWithDepth_end_le (input : List UInt8) (i depth : Nat) (r : Parsed i)
    (h : parseWithDepth input i depth = .ok r) : r.1.2 ≤ input.length := by
  obtain ⟨-, -, -, h | ⟨r', hr, he⟩ | ⟨r', hr, he⟩ | h⟩ := parseWithDepth_ok_cases h
  · exact parseIntAt_end_le h
  · rw [he]; exact parseListItems_end_le input depth (i + 1) [] r' hr
  · rw [he]; exact parseDictItems_end_le input depth (i + 1) [] r' hr
  · exact parseBytesAt_end_le h

/-- For every input, offset and depth, `parse_bencode_with_depth` finishes with an error or
with a value and an end index `j`, `i < j ≤ input.len()`, so that the measure
`input.len() - i` of the list and dictionary loops strictly decreases at every item. Every
index it reads is checked against the length, and the two arms that slice the input,
at any offset, never slice outside it. -/
theorem parseBencodeWithDepth_progress (input : List UInt8) (i depth : Nat) :
    ((∃ v j, parseBencodeWithDepth input i depth = .ok (v, j) ∧ i < j ∧ j ≤ input.length ∧
        input.length - j < input.length - i) ∨
      ∃ e, parseBencodeWithDepth input i depth = .error e) ∧
    ∀ k, parseIntAtChecked input k = .ok (parseIntAt input k) ∧
      parseBytesAtChecked input k = .ok (parseBytesAt input k) := by
  refine ⟨?_, fun k => ⟨parseIntAtChecked_eq input k, parseBytesAtChecked_eq input k⟩⟩
  cases hp : parseWithDepth input i depth with
  | error e => exact .inr ⟨e, by rw [parseBencodeWithDepth, hp]; rfl⟩
  | ok r =>
    have hlt := r.2
    have hle := parseWithDepth_end_le input i depth r hp
    exact .inl ⟨r.1.1, r.1.2, by rw [parseBencodeWithDepth, hp]; rfl, hlt, hle, by omega⟩

end OrcTorrent

import OrcTorrent.Bencode.RoundTrip

/-! `extract_info_hash_from_torrent_bytes`: find the first `4:info` marker, then find the
end of the dictionary after it with a depth-counting byte scanner, and hash that range.
Slicing past the end is a panic of the Rust code, so the function returns
`Except Panic`. The scanner's `depth` is an `i32`; it is an `Int` here, since leaving the
`i32` range needs an input of more than `2^31` bytes. -/

namespace OrcTorrent

/-- A panic of the Rust code. -/
inductive Panic
  | sliceOutOfRange (start stop len : Nat)
  /-- `&s[..index]` of a string whose byte `index` falls inside a character -/
  | notCharBoundary (index : Nat)
  deriving DecidableEq, Repr

/-- `bytes[start..stop]`, which panics unless `start ≤ stop ≤ bytes.len()`. -/
def sliceChecked (bytes : List UInt8) (start stop : Nat) : Except Panic (List UInt8) :=
  if start ≤ stop ∧ stop ≤ bytes.length then .ok (slice bytes start stop)
  else .error (.sliceOutOfRange start stop bytes.length)

theorem sliceChecked_of_le {bytes : List UInt8} {start stop : Nat} (h₁ : start ≤ stop)
    (h₂ : stop ≤ bytes.length) : sliceChecked bytes start stop = .ok (slice bytes start stop) :=
  if_pos ⟨h₁, h₂⟩

/-- `b"4:info"` -/
def infoMarker : List UInt8 := [52, 58, 105, 110, 102, 111]

/-- `for i in 0..=bytes.len().saturating_sub(6)`, from `i` with `n` iterations left: the
index after the first marker. -/
def findInfoMarker (bytes : List UInt8) : Nat → Nat → Except Panic (Option Nat)
  | 0, _ => .ok none
  | n + 1, i => do
    let window ← sliceChecked bytes i (i + infoMarker.length)
    if window = infoMarker then pure (some (i + infoMarker.length))
    else findInfoMarker bytes n (i + 1)

/-- The mutable locals of the depth scanner. -/
structure ScanState where
  depth : Int
  inString : Bool
  stringLen : Nat
  stringPos : Nat
  deriving DecidableEq, Repr

/-- `for i in dict_start..bytes.len()`, on the bytes from index `i` on: the index after
the byte that brings `depth` back to zero. A digit run followed by `:` starts a string
of that length, counted from the byte after the first digit. -/
def scanInfoDict : List UInt8 → Nat → ScanState → Option Nat
  | [], _, _ => none
  | b :: rest, i, st =>
    if st.inString then
      let pos := st.stringPos + 1
      scanInfoDict rest (i + 1)
        (if pos ≥ st.stringLen then { st with inString := false, stringPos := 0, stringLen := 0 }
         else { st with stringPos := pos })
    else
      let run := (b :: rest).takeWhile isDigit
      match (if isDigit b ∧ (b :: rest)[run.length]? = some 58 then parseUsize run else none) with
      | some len =>
        scanInfoDict rest (i + 1) { st with stringLen := len, stringPos := 0, inString := true }
      | none =>
        if b = 100 ∨ b = 108 then scanInfoDict rest (i + 1) { st with depth := st.depth + 1 }
        else if b = 101 then
          if st.depth - 1 = 0 then some (i + 1)
          else scanInfoDict rest (i + 1) { st with depth := st.depth - 1 }
        else scanInfoDict rest (i + 1) st

/-- `extract_info_hash_from_torrent_bytes`, with `sha1Hex` the hex SHA-1 digest. -/
def extractInfoHashFromTorrentBytes (sha1Hex : List UInt8 → String) (bytes : List UInt8) :
    Except Panic (Option String) := do
  let infoStart ← findInfoMarker bytes (bytes.length - infoMarker.length + 1) 0
  match infoStart with
  | none => pure none
  | some dictStart =>
    if dictStart ≥ bytes.length ∨ bytes[dictStart]? ≠ some 100 then pure none
    else match scanInfoDict (bytes.drop dictStart) dictStart ⟨0, false, 0, 0⟩ with
      | none => pure none
      | some dictEnd => do
        let info ← sliceChecked bytes dictStart dictEnd
        pure (some (sha1Hex info))

/-! ## Where the scanner can stop -/

theorem scanInfoDict_bounds {l : List UInt8} {i e : Nat} {st : ScanState}
    (h : scanInfoDict l i st = some e) : i < e ∧ e ≤ i + l.length := by
  induction l generalizing i st with
  | nil => simp [scanInfoDict] at h
  | cons b rest ih =>
    simp only [scanInfoDict] at h
    have step : ∀ st', scanInfoDict rest (i + 1) st' = some e → i < e ∧ e ≤ i + (b :: rest).length :=
      fun st' h' => by have := ih h'; simp; omega
    split at h
    · exact step _ h
    · split at h
      · exact step _ h
      · split at h
        · exact step _ h
        · split at h
          · split at h
            · cases h; simp
            · exact step _ h
          · exact step _ h

theorem findInfoMarker_ok (bytes : List UInt8) (n i : Nat)
    (h : i + n + infoMarker.length ≤ bytes.length + 1) :
    ∃ r, findInfoMarker bytes n i = .ok r ∧ ∀ s, r = some s → s ≤ bytes.length := by
  induction n generalizing i with
  | zero => exact ⟨none, rfl, by simp⟩
  | succ n ih =>
    have hs : sliceChecked bytes i (i + infoMarker.length) =
        .ok (slice bytes i (i + infoMarker.length)) := by
      simp only [sliceChecked, infoMarker, List.length_cons, List.length_nil] at h ⊢
      rw [if_pos (by omega)]
    simp only [findInfoMarker, hs, bind, Except.bind]
    split
    · exact ⟨_, rfl, by simp only [Option.some.injEq]; rintro s rfl; omega⟩
    · exact ih (i + 1) (by omega)

/-- **No panic past the marker's length.** The function returns on every input of at
least six bytes and panics on every shorter one, the empty input included. -/
theorem extractInfoHash_returns_iff (sha1Hex : List UInt8 → String) (bytes : List UInt8) :
    (∃ r, extractInfoHashFromTorrentBytes sha1Hex bytes = .ok r) ↔ 6 ≤ bytes.length := by
  constructor
  · intro ⟨r, hr⟩
    by_contra hlt
    have hn : bytes.length - infoMarker.length + 1 = 0 + 1 := by simp [infoMarker]; omega
    simp only [extractInfoHashFromTorrentBytes, hn, findInfoMarker, sliceChecked, bind,
      Except.bind, infoMarker, List.length_cons, List.length_nil] at hr
    rw [if_neg (by omega)] at hr
    cases hr
  · intro hlen
    obtain ⟨m, hm, hms⟩ := findInfoMarker_ok bytes
      (bytes.length - infoMarker.length + 1) 0 (by simp [infoMarker]; omega)
    simp only [extractInfoHashFromTorrentBytes, hm, bind, Except.bind]
    match m, hms with
    | none, _ => exact ⟨_, rfl⟩
    | some s, hms =>
      dsimp only
      split
      · exact ⟨_, rfl⟩
      · split
        · exact ⟨_, rfl⟩
        · next e he =>
          have hb := scanInfoDict_bounds he
          simp only [List.length_drop] at hb
          have hs := hms s rfl
          simp only [sliceChecked, if_pos (show s ≤ e ∧ e ≤ bytes.length by omega)]
          exact ⟨_, rfl⟩

/-! ## A torrent whose `info` dictionary holds an integer -/

/-- `{"a": 1}` -/
def infoFixture : BVal := .dict [([97], .int 1)]

/-- `{"info": {"a": 1}}`, encoded `d4:infod1:ai1eee`. -/
def torrentFixture : BVal := .dict [([105, 110, 102, 111], infoFixture)]

theorem fits_infoFixture (d : Nat) (hd : d + 1 ≤ MAX_BENCODE_DEPTH) : Fits d infoFixture :=
  .dict (by omega) (by decide) (by simp [MAX_BYTE_STRING_SIZE])
    fun kv hkv => by
      rw [List.mem_singleton.mp hkv]; exact .int hd (by decide) (by decide)

/-- The scanner ends the `info` range at the `e` of `i1e`: it hashes `d1:ai1e`, bytes 7 to
14, while the decoder reads the `info` value from byte 7 to byte 15. -/
theorem extractInfoHash_stops_at_integer_end (sha1Hex : List UInt8 → String) :
    parseBencode (enc torrentFixture) 0 = .ok (torrentFixture, 16) ∧
      parseBencodeWithDepth (enc torrentFixture) 7 1 = .ok (infoFixture, 15) ∧
      extractInfoHashFromTorrentBytes sha1Hex (enc torrentFixture) =
        .ok (some (sha1Hex (slice (enc torrentFixture) 7 14))) ∧
      slice (enc torrentFixture) 7 14 ≠ slice (enc torrentFixture) 7 15 := by
  have hbytes : enc torrentFixture =
      [100, 52, 58, 105, 110, 102, 111, 100, 49, 58, 97, 105, 49, 101, 101, 101] := by
    simp [torrentFixture, infoFixture, enc, encDict, decimal, intDecimal, Nat.digits_of_lt,
      digitByte]
  have hroot : Fits 0 torrentFixture :=
    .dict (by decide) (by decide) (by simp [MAX_BYTE_STRING_SIZE]) fun kv hkv => by
      rw [List.mem_singleton.mp hkv]; exact fits_infoFixture 1 (by decide)
  have hinfo : enc torrentFixture = [100, 52, 58, 105, 110, 102, 111] ++ enc infoFixture ++ [101] := by
    simp [torrentFixture, enc, encDict, decimal, Nat.digits_of_lt, digitByte]
  refine ⟨?_, ?_, by rw [hbytes]; rfl, by rw [hbytes]; decide⟩
  · have := parseWithDepth_enc torrentFixture 0 [] [] hroot (by rw [hbytes]; decide)
    simpa [hbytes, parseBencode, parseBencodeWithDepth] using this
  · have := parseWithDepth_enc infoFixture 1 _ [101] (fits_infoFixture 1 (by decide))
      (by rw [← hinfo, hbytes]; decide)
    rw [← hinfo] at this
    simpa [parseBencodeWithDepth, hbytes, infoFixture, enc, encDict, decimal, intDecimal,
      Nat.digits_of_lt, digitByte] using this

end OrcTorrent

import OrcTorrent.Ingest

/-! The info hash and the trackers of a magnet link. `parse_trackers_from_magnet` splits
the query into `key=value` parameters (`parseTrackersFromMagnet_eq`), while
`extract_info_hash_from_magnet` searches the whole link for the text `xt=urn:btih:`: a link
whose only such text stands inside the value of a `tr` parameter has no info hash when read
through its parameters, yet the search returns one
(`extractInfoHashFromMagnet_inside_value`). `percent_decode` reads back every escape an
encoder may write, whichever bytes it escapes and in either case, as long as it escapes
every `%` (`percentDecode_percentEncode`). -/

namespace OrcTorrent

/-! ## Parameters and the info hash -/

/-- The query of a magnet link as `parse_trackers_from_magnet` splits it: the text after
the first `?`, cut at each `&`, each part cut at its first `=`. -/
def magnetParams (magnet : String) : List (List Char × List Char) :=
  match magnet.data.findIdx? (· = '?') with
  | none => []
  | some qpos => (splitBy (· = '&') (magnet.data.drop (qpos + 1))).map fun part =>
      (part.takeWhile (· ≠ '='), (part.dropWhile (· ≠ '=')).drop 1)

theorem parseTrackersFromMagnet_eq (p : Platform) (magnet : String) :
    parseTrackersFromMagnet p magnet = (magnetParams magnet).filterMap fun kv =>
      if kv.1 ≠ "tr".data then none
      else if trimIsEmpty (percentDecode p kv.2) then none else some (percentDecode p kv.2) := by
  unfold parseTrackersFromMagnet magnetParams
  cases magnet.data.findIdx? (· = '?') <;> simp only [List.filterMap_map, List.filterMap_nil]; rfl

/-- The info hash read through the parameters: the value of the first `xt` parameter that
starts with `urn:btih:`, kept when the rest is 40 hex digits. -/
def btihParam (magnet : String) : Option String :=
  match (magnetParams magnet).find? fun kv => kv.1 = "xt".data ∧ "urn:btih:".data.isPrefixOf kv.2 with
  | some (_, v) =>
    let hash := v.drop 9
    if hash.length = 40 ∧ hash.all isAsciiHexDigit then some ⟨hash.map Char.toLower⟩ else none
  | none => none

theorem ne_amp_of_hex {h : List Char} (hhex : h.all isAsciiHexDigit) : ∀ c ∈ h, c ≠ '&' := by
  intro c hc hce
  have := List.all_eq_true.mp hhex c hc
  rw [hce] at this
  exact absurd this (by decide)

/-- The only parameter of `magnet:?tr=xt=urn:btih:h` is `tr`, when `h` has no `&`. -/
theorem magnetParams_tr {h : List Char} (hamp : ∀ c ∈ h, c ≠ '&') :
    magnetParams ⟨"magnet:?tr=xt=urn:btih:".data ++ h⟩ = [("tr".data, "xt=urn:btih:".data ++ h)] := by
  have hsep : ∀ c ∈ "tr=xt=urn:btih:".data ++ h, decide (c = '&') = false := by
    intro c hc
    rcases List.mem_append.mp hc with hc | hc
    · exact (by decide : ∀ c ∈ "tr=xt=urn:btih:".data, decide (c = '&') = false) c hc
    · simpa using hamp c hc
  have hidx : ("magnet:?tr=xt=urn:btih:".data ++ h).findIdx? (· = '?') = some 7 := by
    simp [List.findIdx?]
  rw [magnetParams, hidx]
  dsimp only
  rw [show ("magnet:?tr=xt=urn:btih:".data ++ h).drop (7 + 1) = "tr=xt=urn:btih:".data ++ h from rfl,
    splitBy_of_sep_free hsep]
  simp

/-- For every 40 hex digits `h`, the link `magnet:?tr=xt=urn:btih:h` is within the checked
form and length, and `extract_info_hash_from_magnet` returns `h` in lower case, although the
link has no `xt` parameter at all. -/
theorem extractInfoHashFromMagnet_inside_value (h : List Char) (hlen : h.length = 40)
    (hhex : h.all isAsciiHexDigit) :
    let m : String := ⟨"magnet:?tr=xt=urn:btih:".data ++ h⟩
    "magnet:?".data.isPrefixOf m.data ∧ m.utf8ByteSize ≤ 8192 ∧
      extractInfoHashFromMagnet m = some ⟨h.map Char.toLower⟩ ∧ btihParam m = none := by
  intro m
  have htw : h.takeWhile (fun x => !decide (x = '&')) = h :=
    List.takeWhile_eq_self_iff.mpr fun c hc => by simpa using ne_amp_of_hex hhex c hc
  have hsize : m.utf8ByteSize ≤ 8192 := by
    have := utf8ByteSize_le m.data
    simp only [m, List.length_append, hlen] at this
    exact this.trans (by decide)
  refine ⟨by simp [m, List.isPrefixOf], hsize, ?_, ?_⟩
  · simp [extractInfoHashFromMagnet, findSub, List.isPrefixOf, htw, hlen, hhex, hsize]
    simpa [htw] using hhex
  · simp only [m, btihParam, magnetParams_tr (ne_amp_of_hex hhex)]
    simp

theorem extractInfoHashFromMagnet_inside_value_zeros :
    (List.replicate 40 '0').length = 40 ∧ (List.replicate 40 '0').all isAsciiHexDigit ∧
      let m : String := ⟨"magnet:?tr=xt=urn:btih:".data ++ List.replicate 40 '0'⟩
      "magnet:?".data.isPrefixOf m.data ∧ m.utf8ByteSize ≤ 8192 ∧
        extractInfoHashFromMagnet m = some ⟨(List.replicate 40 '0').map Char.toLower⟩ ∧
        btihParam m = none :=
  ⟨by decide, by decide, extractInfoHashFromMagnet_inside_value _ (by decide) (by decide)⟩

/-! ## Percent-decoding -/

/-- How an encoder writes one byte: as itself, or as `%` and two hex digits, each digit in
either case. -/
inductive Escape
  | keep
  | hex (upperHigh upperLow : Bool)
  deriving DecidableEq, Repr

/-- The hex digit of `n < 16`, in upper or lower case. -/
def hexDigitByte (upper : Bool) (n : Nat) : UInt8 :=
  UInt8.ofNat (if n < 10 then 48 + n else if upper then 55 + n else 87 + n)

def escapeByte (b : UInt8) : Escape → List UInt8
  | .keep => [b]
  | .hex upperHigh upperLow =>
    [37, hexDigitByte upperHigh (b.toNat / 16), hexDigitByte upperLow (b.toNat % 16)]

/-- What an encoder writes for the bytes `es.map Prod.fst`, given its choice for each. -/
def percentEncode (es : List (UInt8 × Escape)) : List UInt8 :=
  es.flatMap fun e => escapeByte e.1 e.2

theorem fromHex_hexDigitByte : ∀ n, n < 16 → ∀ upper, fromHex (hexDigitByte upper n) = some (UInt8.ofNat n) := by
  decide

theorem ofNat_shiftLeft_or : ∀ hi, hi < 16 → ∀ lo, lo < 16 →
    (UInt8.ofNat hi <<< 4) ||| UInt8.ofNat lo = UInt8.ofNat (16 * hi + lo) := by
  decide

theorem percentDecodeBytes_cons_of_ne {b : UInt8} (hb : b ≠ 37) (l : List UInt8) :
    percentDecodeBytes (b :: l) = b :: percentDecodeBytes l := by
  rcases l with _ | ⟨x, _ | ⟨y, rest⟩⟩ <;> simp [percentDecodeBytes, hb]

/-- An escape is read back as its byte, also when it ends the input. -/
theorem percentDecodeBytes_escape (b : UInt8) (upperHigh upperLow : Bool) (l : List UInt8) :
    percentDecodeBytes (escapeByte b (.hex upperHigh upperLow) ++ l) = b :: percentDecodeBytes l := by
  have hb : b.toNat < 256 := b.toNat_lt_size
  have hhi := fromHex_hexDigitByte (b.toNat / 16) (by omega) upperHigh
  have hlo := fromHex_hexDigitByte (b.toNat % 16) (by omega) upperLow
  have hbyte : UInt8.ofNat (16 * (b.toNat / 16) + b.toNat % 16) = b :=
    UInt8.toNat.inj (by rw [Nat.div_add_mod]; exact UInt8.toNat_ofNat_of_lt hb)
  simp only [escapeByte, List.cons_append, List.nil_append, List.append_eq, percentDecodeBytes,
    ↓reduceIte, hhi, hlo, ofNat_shiftLeft_or (b.toNat / 16) (by omega) (b.toNat % 16) (by omega),
    hbyte]

theorem percentDecodeBytes_percentEncode (es : List (UInt8 × Escape))
    (hpct : ∀ e ∈ es, e.1 = 37 → e.2 ≠ .keep) :
    percentDecodeBytes (percentEncode es) = es.map Prod.fst := by
  induction es with
  | nil => simp [percentEncode, percentDecodeBytes]
  | cons e es ih =>
    have ih := ih fun e' he' => hpct e' (List.mem_cons_of_mem _ he')
    obtain ⟨b, _ | ⟨upperHigh, upperLow⟩⟩ := e
    · have hb : b ≠ 37 := fun hb => hpct _ (List.mem_cons_self _ _) hb rfl
      simp only [percentEncode, List.flatMap_cons, escapeByte, List.singleton_append] at ih ⊢
      rw [percentDecodeBytes_cons_of_ne hb, ih, List.map_cons]
    · simp only [percentEncode, List.flatMap_cons] at ih ⊢
      rw [percentDecodeBytes_escape, ih, List.map_cons]

/-- Every string an encoder makes from `s`, escaping any of its bytes in either case and
every `%` among them, is decoded back to `s` (given that the lossy UTF-8 decoding returns
`s` from the bytes of `s`). -/
theorem percentDecode_percentEncode (p : Platform) (s t : List Char) (es : List (UInt8 × Escape))
    (hbytes : es.map Prod.fst = utf8Bytes s) (hpct : ∀ e ∈ es, e.1 = 37 → e.2 ≠ .keep)
    (henc : utf8Bytes t = percentEncode es) (hlossy : p.fromUtf8Lossy (utf8Bytes s) = ⟨s⟩) :
    percentDecode p t = ⟨s⟩ := by
  rw [percentDecode, henc, percentDecodeBytes_percentEncode es hpct, hbytes, hlossy]

/-- `é%` on a platform that decodes UTF-8: both bytes of `é` escaped, one in upper and one in
lower case, and the `%` as `%25`, so that `%C3%a9%25` is decoded to `é%`. -/
theorem percentDecode_percentEncode_accent_pct :
    let es : List (UInt8 × Escape) := [(0xC3, .hex true true), (0xA9, .hex false false),
      (37, .hex true false)]
    es.map Prod.fst = utf8Bytes "é%".data ∧ (∀ e ∈ es, e.1 = 37 → e.2 ≠ .keep) ∧
      utf8Bytes "%C3%a9%25".data = percentEncode es ∧
      Platform.ascii.fromUtf8Lossy (utf8Bytes "é%".data) = ⟨"é%".data⟩ ∧
      percentDecode Platform.ascii "%C3%a9%25".data = ⟨"é%".data⟩ :=
  ⟨by decide, by decide, by decide, by decide,
    percentDecode_percentEncode _ "é%".data "%C3%a9%25".data
      [(0xC3, .hex true true), (0xA9, .hex false false), (37, .hex true false)]
      (by decide) (by decide) (by decide) (by decide)⟩

end OrcTorrent

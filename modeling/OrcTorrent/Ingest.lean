import OrcTorrent.Json
import OrcTorrent.Bencode

/-! What the core reads out of an add request before and after the engine has the
torrent: the info hash of a magnet link, the tracker lists of a magnet link and of a
`.torrent` file, and the sanitized path components of the engine's file names. Strings
are read through their characters; `find`, `split` and `trim` of the Rust code become
the list functions below. -/

namespace OrcTorrent

/-! ## String helpers -/

/-- `s.trim()`. -/
def rustTrim (s : List Char) : List Char :=
  ((s.dropWhile rustIsWhitespace).reverse.dropWhile rustIsWhitespace).reverse

/-- `s.split(p)`: the pieces between the characters `p` accepts, empty pieces included. -/
def splitBy (p : Char → Bool) : List Char → List (List Char)
  | [] => [[]]
  | c :: rest =>
    if p c then [] :: splitBy p rest
    else match splitBy p rest with
      | [] => [[c]]
      | w :: ws => (c :: w) :: ws

theorem splitBy_sep_free (p : Char → Bool) (l : List Char) :
    ∀ piece ∈ splitBy p l, ∀ c ∈ piece, p c = false := by
  induction l with
  | nil => simp [splitBy]
  | cons c rest ih =>
    unfold splitBy
    split
    · intro piece hp
      rcases List.mem_cons.mp hp with rfl | hp
      · simp
      · exact ih piece hp
    · next hc =>
      split
      · next h => simpa using hc
      · next w ws h =>
        intro piece hp
        rcases List.mem_cons.mp hp with rfl | hp
        · intro d hd
          rcases List.mem_cons.mp hd with rfl | hd
          · simpa using hc
          · exact ih w (by rw [h]; exact List.mem_cons_self _ _) d hd
        · exact ih piece (by rw [h]; exact List.mem_cons_of_mem _ hp)

theorem splitBy_of_sep_free {p : Char → Bool} {l : List Char} (h : ∀ c ∈ l, p c = false) :
    splitBy p l = [l] := by
  induction l with
  | nil => rfl
  | cons c rest ih =>
    have hrest := ih fun d hd => h d (List.mem_cons_of_mem _ hd)
    simp [splitBy, h c (List.mem_cons_self _ _), hrest]

theorem rustTrim_sublist (s : List Char) : List.Sublist (rustTrim s) s := by
  have h₁ : List.Sublist (s.dropWhile rustIsWhitespace) s := (List.dropWhile_suffix _).sublist
  have h₂ : List.Sublist ((s.dropWhile rustIsWhitespace).reverse.dropWhile rustIsWhitespace)
      (s.dropWhile rustIsWhitespace).reverse := (List.dropWhile_suffix _).sublist
  exact h₂.reverse.trans (by rw [List.reverse_reverse]; exact h₁)

/-- A character takes at most four bytes. -/
theorem utf8ByteSize_le (cs : List Char) : (String.mk cs).utf8ByteSize ≤ 4 * cs.length := by
  show String.utf8ByteSize.go cs ≤ 4 * cs.length
  induction cs with
  | nil => rfl
  | cons c cs ih =>
    have := c.utf8Size_le_four
    simp only [String.utf8ByteSize.go, List.length_cons]
    omega

/-- `hay.find(needle)`, as a character index. -/
def findSub (needle : List Char) : List Char → Option Nat
  | [] => if needle = [] then some 0 else none
  | c :: rest =>
    if needle.isPrefixOf (c :: rest) then some 0 else (findSub needle rest).map (· + 1)

def isAsciiHexDigit (c : Char) : Bool :=
  c.isDigit || ('a' ≤ c && c ≤ 'f') || ('A' ≤ c && c ≤ 'F')

/-! ## Magnet links -/

/-- `extract_info_hash_from_magnet`. The hash is the text after `xt=urn:btih:` up to the
next `&`; it is kept only as 40 hex digits (then its byte and character lengths agree). -/
def extractInfoHashFromMagnet (magnet : String) : Option String :=
  if !"magnet:?".data.isPrefixOf magnet.data then none
  else if magnet.utf8ByteSize > 8192 then none
  else (findSub "xt=urn:btih:".data magnet.data).bind fun xtStart =>
    let hash := (magnet.data.drop (xtStart + 12)).takeWhile (· ≠ '&')
    if hash.length = 40 ∧ hash.all isAsciiHexDigit then some ⟨hash.map Char.toLower⟩
    else none

/-- `from_hex`. -/
def fromHex (b : UInt8) : Option UInt8 :=
  if 48 ≤ b ∧ b ≤ 57 then some (b - 48)
  else if 97 ≤ b ∧ b ≤ 102 then some (10 + (b - 97))
  else if 65 ≤ b ∧ b ≤ 70 then some (10 + (b - 65))
  else none

/-- The byte loop of `percent_decode`: `%` and two hex digits make one byte. -/
def percentDecodeBytes : List UInt8 → List UInt8
  | [] => []
  | b :: tl =>
    match tl with
    | h1 :: h2 :: rest =>
      if b = 37 then
        match fromHex h1, fromHex h2 with
        | some x, some y => ((x <<< 4) ||| y) :: percentDecodeBytes rest
        | _, _ => b :: percentDecodeBytes (h1 :: h2 :: rest)
      else b :: percentDecodeBytes (h1 :: h2 :: rest)
    | tl => b :: percentDecodeBytes tl

/-- `s.as_bytes()`. -/
def utf8Bytes (s : List Char) : List UInt8 := s.flatMap String.utf8EncodeChar

/-- `percent_decode`, on the UTF-8 bytes of `s`. -/
def percentDecode (p : Platform) (s : List Char) : String :=
  p.fromUtf8Lossy (percentDecodeBytes (utf8Bytes s))

/-- `parse_trackers_from_magnet`: the percent-decoded, non-blank `tr=` values after the
first `?`. -/
def parseTrackersFromMagnet (p : Platform) (magnet : String) : List String :=
  match magnet.data.findIdx? (· = '?') with
  | none => []
  | some qpos =>
    (splitBy (· = '&') (magnet.data.drop (qpos + 1))).filterMap fun part =>
      let key := part.takeWhile (· ≠ '=')
      let val := (part.dropWhile (· ≠ '=')).drop 1
      if key ≠ "tr".data then none
      else
        let v := percentDecode p val
        if trimIsEmpty v then none else some v

/-! ## `.torrent` files -/

/-- `get_dict_value`: the first entry under `key`. -/
def getDictValue (dict : List (List UInt8 × BVal)) (key : List UInt8) : Option BVal :=
  (dict.find? fun e => e.1 = key).map Prod.snd

/-- `b"announce"` -/
def announceKey : List UInt8 := [97, 110, 110, 111, 117, 110, 99, 101]

/-- `b"announce-list"` -/
def announceListKey : List UInt8 := announceKey ++ [45, 108, 105, 115, 116]

/-- A byte string as a tracker URL, unless it is blank. -/
def trackerUrl (p : Platform) (b : List UInt8) : List String :=
  let s := p.fromUtf8Lossy b
  if trimIsEmpty s then [] else [s]

/-- One tier of `announce-list`: a list of URLs, or a single URL. -/
def tierUrls (p : Platform) : BVal → List String
  | .list urls => urls.flatMap fun
      | .bytes b => trackerUrl p b
      | _ => []
  | .bytes b => trackerUrl p b
  | _ => []

/-- `parse_trackers_from_torrent_bytes`: `announce`, then every URL of `announce-list`. -/
def parseTrackersFromTorrentBytes (p : Platform) (bytes : List UInt8) : List String :=
  match parseBencode bytes 0 with
  | .ok (.dict map, _) =>
    (match getDictValue map announceKey with
      | some (.bytes a) => trackerUrl p a
      | _ => []) ++
    (match getDictValue map announceListKey with
      | some (.list tiers) => tiers.flatMap (tierUrls p)
      | _ => [])
  | _ => []

/-- `dedup_preserve`, with the `HashSet` of strings seen so far. -/
def dedupPreserveFrom (seen : List String) : List String → List String
  | [] => []
  | s :: rest =>
    if s ∈ seen then dedupPreserveFrom seen rest else s :: dedupPreserveFrom (s :: seen) rest

def dedupPreserve (v : List String) : List String := dedupPreserveFrom [] v

/-! ## File paths -/

/-- The punctuation `sanitize_path_component` keeps. -/
def pathComponentPunctuation : List Char :=
  [' ', '.', '-', '_', '(', ')', '[', ']', '&', '#', '@', '!', '%', '+', '=']

def sanitizePathComponent (p : Platform) (component : List Char) : List Char :=
  rustTrim ((component.filter fun c =>
    p.isAlphanumeric c || pathComponentPunctuation.contains c).take 255)

/-- `split_path_components`: at most 100 sanitized components, or `["file"]`. -/
def splitPathComponents (p : Platform) (name : String) : List String :=
  let parts := ((((splitBy (fun c => c = '/' || c = '\\') name.data).filter (· ≠ [])).filter
    fun c => c ≠ ['.'] ∧ c ≠ ['.', '.']).map (sanitizePathComponent p)).filter (· ≠ []) |>.take 100
  if parts = [] then ["file"] else parts.map String.mk

end OrcTorrent

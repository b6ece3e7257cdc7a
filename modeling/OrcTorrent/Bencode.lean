import Mathlib.Data.List.Basic
import Mathlib.Algebra.Group.Nat.Basic

/-! The bencode decoder of `orc-core/src/lib.rs` (`parse_bencode_with_depth`), over the
input as a byte list and an index into it, as the Rust code reads it. The recursive
parser returns its end index together with a proof that it lies past the start, which
is what makes the list and dictionary loops terminate.

The grammar's bytes are written as numbers: `b'i'` = 105, `b'l'` = 108, `b'd'` = 100,
`b'e'` = 101, `b':'` = 58, `b'+'` = 43, `b'-'` = 45, `b'0'..=b'9'` = 48..57. -/

namespace OrcTorrent

inductive BVal
  | int (n : Int)
  | bytes (b : List UInt8)
  | list (xs : List BVal)
  | dict (kvs : List (List UInt8 × BVal))
  deriving Repr

/-- The parse failures, one per `anyhow!` of the decoder; `invalidNumber` stands for the
`Utf8Error` and `ParseIntError` that `?` forwards. -/
inductive BencodeError
  | nestingTooDeep | inputTooLarge | eof
  | unterminatedInt | integerTooLong | invalidNumber
  | listTooLarge | unterminatedList
  | dictTooLarge | dictKeyNotBytes | unterminatedDict
  | invalidBytesLength | bytesLengthTooLong | byteStringTooLarge | bytesOutOfRange
  | invalidPrefix
  deriving DecidableEq, Repr

def BencodeError.message : BencodeError → String
  | .nestingTooDeep => "bencode nesting too deep (max 100)"
  | .inputTooLarge => "bencode input too large (max 104857600 bytes)"
  | .eof => "eof"
  | .unterminatedInt => "unterminated int"
  | .integerTooLong => "integer too long"
  | .invalidNumber => "invalid digit found in string"
  | .listTooLarge => "list too large (max 100000 items)"
  | .unterminatedList => "unterminated list"
  | .dictTooLarge => "dict too large (max 100000 items)"
  | .dictKeyNotBytes => "dict key is not bytes"
  | .unterminatedDict => "unterminated dict"
  | .invalidBytesLength => "invalid bytes length"
  | .bytesLengthTooLong => "bytes length string too long"
  | .byteStringTooLarge => "byte string too large (max 10485760 bytes)"
  | .bytesOutOfRange => "bytes out of range"
  | .invalidPrefix => "invalid bencode prefix"

def MAX_BENCODE_DEPTH : Nat := 100
def MAX_BENCODE_SIZE : Nat := 100 * 1024 * 1024
def MAX_LIST_ITEMS : Nat := 100000
def MAX_DICT_ITEMS : Nat := 100000
def MAX_BYTE_STRING_SIZE : Nat := 10 * 1024 * 1024

/-- `input[start..stop]`. -/
def slice (input : List UInt8) (start stop : Nat) : List UInt8 :=
  (input.drop start).take (stop - start)

def isDigit (b : UInt8) : Bool := 48 ≤ b && b ≤ 57

/-- The value of a nonempty run of ASCII digits. -/
def digitsValue (ds : List UInt8) : Option Nat :=
  if ds ≠ [] ∧ ds.all isDigit then
    some (ds.foldl (fun n b => 10 * n + (b.toNat - 48)) 0)
  else none

/-- `str::parse::<i64>`: an optional sign, then digits, in range. -/
def parseI64 : List UInt8 → Option Int
  | [] => none
  | c :: rest =>
    if c = 43 then (digitsValue rest).bind fun n => if n < 2 ^ 63 then some n else none
    else if c = 45 then
      (digitsValue rest).bind fun n => if n ≤ 2 ^ 63 then some (-(n : Int)) else none
    else (digitsValue (c :: rest)).bind fun n => if n < 2 ^ 63 then some n else none

/-- `str::parse` for an unsigned type whose values lie below `bound`: an optional `+`,
then digits, in range. -/
def parseUnsigned (bound : Nat) : List UInt8 → Option Nat
  | [] => none
  | c :: rest =>
    (if c = 43 then digitsValue rest else digitsValue (c :: rest)).bind fun n =>
      if n < bound then some n else none

/-- `str::parse::<usize>` on a 64-bit target. -/
def parseUsize : List UInt8 → Option Nat := parseUnsigned (2 ^ 64)

/-- `while i < input.len() && input[i] != stop && n < max { i += 1; n += 1 }`, where
`fuel = max - n` iterations remain; the index where the loop stops. -/
def scanUntil (input : List UInt8) (stop : UInt8) : Nat → Nat → Nat
  | 0, i => i
  | fuel + 1, i =>
    match input[i]? with
    | some b => if b = stop then i else scanUntil input stop fuel (i + 1)
    | none => i

theorem le_scanUntil (input : List UInt8) (stop : UInt8) (fuel i : Nat) :
    i ≤ scanUntil input stop fuel i := by
  induction fuel generalizing i with
  | zero => simp [scanUntil]
  | succ fuel ih =>
    simp only [scanUntil]
    split
    · split
      · exact Nat.le_refl i
      · exact Nat.le_trans (Nat.le_succ i) (ih (i + 1))
    · exact Nat.le_refl i

/-- A parse that started at `i`, with the index after the value. -/
def Parsed (i : Nat) := {r : BVal × Nat // i < r.2}

/-- The `b'i'` arm, called with `i` on the `i`. -/
def parseIntAt (input : List UInt8) (i : Nat) : Except BencodeError (Parsed i) :=
  let start := i + 1
  let j := scanUntil input 101 20 start
  if h : j < input.length then
    if 20 ≤ j - start ∧ input[j] ≠ 101 then .error .integerTooLong
    else match parseI64 (slice input start j) with
      | some n => .ok ⟨(.int n, j + 1), by have := le_scanUntil input 101 20 start; omega⟩
      | none => .error .invalidNumber
  else .error .unterminatedInt

/-- The `b'0'..=b'9'` arm, called with `i` on the first digit of the length. -/
def parseBytesAt (input : List UInt8) (i : Nat) : Except BencodeError (Parsed i) :=
  let j := scanUntil input 58 10 i
  if h : j < input.length then
    if 10 ≤ j - i ∧ input[j] ≠ 58 then .error .bytesLengthTooLong
    else match parseUsize (slice input i j) with
      | some len =>
        if len > MAX_BYTE_STRING_SIZE then .error .byteStringTooLarge
        else if j + 1 + len > input.length then .error .bytesOutOfRange
        else .ok ⟨(.bytes (slice input (j + 1) (j + 1 + len)), j + 1 + len), by
          have := le_scanUntil input 58 10 i; omega⟩
      | none => .error .invalidNumber
  else .error .invalidBytesLength

mutual

/-- `parse_bencode_with_depth(input, i, depth)`, with the proof that the end index
returned lies past `i`. -/
def parseWithDepth (input : List UInt8) (i depth : Nat) : Except BencodeError (Parsed i) :=
  if depth > MAX_BENCODE_DEPTH then .error .nestingTooDeep
  else if input.length > MAX_BENCODE_SIZE then .error .inputTooLarge
  else if h : i < input.length then
    let b := input[i]
    if b = 105 then parseIntAt input i
    else if b = 108 then
      match parseListItems input depth (i + 1) [] with
      | .ok r => .ok ⟨r.1, by have := r.2; omega⟩
      | .error e => .error e
    else if b = 100 then
      match parseDictItems input depth (i + 1) [] with
      | .ok r => .ok ⟨r.1, by have := r.2; omega⟩
      | .error e => .error e
    else if isDigit b then parseBytesAt input i
    else .error .invalidPrefix
  else .error .eof
termination_by 2 * (input.length - i)

/-- The loop of the `b'l'` arm from index `i`, with the items read so far. -/
def parseListItems (input : List UInt8) (depth i : Nat) (items : List BVal) :
    Except BencodeError (Parsed i) :=
  if h : i < input.length then
    if input[i] = 101 then .ok ⟨(.list items, i + 1), Nat.lt_succ_self i⟩
    else if items.length ≥ MAX_LIST_ITEMS then .error .listTooLarge
    else match parseWithDepth input i (depth + 1) with
      | .error e => .error e
      | .ok ⟨(v, ni), hni⟩ =>
        match parseListItems input depth ni (items ++ [v]) with
        | .ok r => .ok ⟨r.1, by have := r.2; omega⟩
        | .error e => .error e
  else .error .unterminatedList
termination_by 2 * (input.length - i) + 1

/-- The loop of the `b'd'` arm from index `i`, with the entries read so far. -/
def parseDictItems (input : List UInt8) (depth i : Nat) (items : List (List UInt8 × BVal)) :
    Except BencodeError (Parsed i) :=
  if h : i < input.length then
    if input[i] = 101 then .ok ⟨(.dict items, i + 1), Nat.lt_succ_self i⟩
    else if items.length ≥ MAX_DICT_ITEMS then .error .dictTooLarge
    else match parseWithDepth input i (depth + 1) with
      | .error e => .error e
      | .ok ⟨(.bytes key, ni), hni⟩ =>
        match parseWithDepth input ni (depth + 1) with
        | .error e => .error e
        | .ok ⟨(v, ni2), hni2⟩ =>
          match parseDictItems input depth ni2 (items ++ [(key, v)]) with
          | .ok r => .ok ⟨r.1, by have := r.2; omega⟩
          | .error e => .error e
      | .ok _ => .error .dictKeyNotBytes
  else .error .unterminatedDict
termination_by 2 * (input.length - i) + 1

end

/-- `parse_bencode_with_depth`. -/
def parseBencodeWithDepth (input : List UInt8) (i depth : Nat) :
    Except BencodeError (BVal × Nat) :=
  (parseWithDepth input i depth).map Subtype.val

/-- `parse_bencode`. -/
def parseBencode (input : List UInt8) (i : Nat) : Except BencodeError (BVal × Nat) :=
  parseBencodeWithDepth input i 0

/-! ## One lemma per arm -/

section Arms

variable {input : List UInt8} {i depth : Nat}

theorem parseIntAt_ok (n : Int) (hj : input[scanUntil input 101 20 (i + 1)]? = some 101)
    (hn : parseI64 (slice input (i + 1) (scanUntil input 101 20 (i + 1))) = some n) :
    (parseIntAt input i).map Subtype.val =
      .ok (.int n, scanUntil input 101 20 (i + 1) + 1) := by
  obtain ⟨hlt, heq⟩ := List.getElem?_eq_some_iff.mp hj
  simp [parseIntAt, hlt, heq, hn, Except.map]

theorem parseBytesAt_ok (len : Nat) (hj : input[scanUntil input 58 10 i]? = some 58)
    (hn : parseUsize (slice input i (scanUntil input 58 10 i)) = some len)
    (hmax : len ≤ MAX_BYTE_STRING_SIZE)
    (hend : scanUntil input 58 10 i + 1 + len ≤ input.length) :
    (parseBytesAt input i).map Subtype.val =
      .ok (.bytes (slice input (scanUntil input 58 10 i + 1) (scanUntil input 58 10 i + 1 + len)),
        scanUntil input 58 10 i + 1 + len) := by
  obtain ⟨hlt, heq⟩ := List.getElem?_eq_some_iff.mp hj
  simp [parseBytesAt, hlt, heq, hn, Except.map, Nat.not_lt.mpr hmax, Nat.not_lt.mpr hend]

/-- Within the limits, `parseWithDepth` dispatches on the byte at `i`. -/
theorem parseWithDepth_dispatch {b : UInt8} (hd : depth ≤ MAX_BENCODE_DEPTH)
    (hs : input.length ≤ MAX_BENCODE_SIZE) (hb : input[i]? = some b) :
    (parseWithDepth input i depth).map Subtype.val =
      if b = 105 then (parseIntAt input i).map Subtype.val
      else if b = 108 then (parseListItems input depth (i + 1) []).map Subtype.val
      else if b = 100 then (parseDictItems input depth (i + 1) []).map Subtype.val
      else if isDigit b then (parseBytesAt input i).map Subtype.val
      else .error .invalidPrefix := by
  obtain ⟨hlt, heq⟩ := List.getElem?_eq_some_iff.mp hb
  rw [parseWithDepth]
  simp only [Nat.not_lt.mpr hd, Nat.not_lt.mpr hs, hlt, heq, if_false, dif_pos]
  by_cases h₁ : b = 105
  · rw [if_pos h₁, if_pos h₁]
  rw [if_neg h₁, if_neg h₁]
  by_cases h₂ : b = 108
  · rw [if_pos h₂, if_pos h₂]; cases parseListItems input depth (i + 1) [] <;> rfl
  rw [if_neg h₂, if_neg h₂]
  by_cases h₃ : b = 100
  · rw [if_pos h₃, if_pos h₃]; cases parseDictItems input depth (i + 1) [] <;> rfl
  rw [if_neg h₃, if_neg h₃]
  split <;> rfl

theorem parseListItems_end {items : List BVal} (hb : input[i]? = some 101) :
    (parseListItems input depth i items).map Subtype.val = .ok (.list items, i + 1) := by
  obtain ⟨hlt, heq⟩ := List.getElem?_eq_some_iff.mp hb
  rw [parseListItems]
  simp [hlt, heq, Except.map]

theorem parseListItems_step {items : List BVal} {b : UInt8} {v : BVal} {ni : Nat}
    (hb : input[i]? = some b) (hne : b ≠ 101) (hlen : items.length < MAX_LIST_ITEMS)
    (hv : (parseWithDepth input i (depth + 1)).map Subtype.val = .ok (v, ni)) :
    (parseListItems input depth i items).map Subtype.val =
      (parseListItems input depth ni (items ++ [v])).map Subtype.val := by
  obtain ⟨hlt, heq⟩ := List.getElem?_eq_some_iff.mp hb
  rw [parseListItems]
  simp only [hlt, heq, hne, dif_pos, if_false, Nat.not_le.mpr hlen]
  cases h : parseWithDepth input i (depth + 1) with
  | error e => simp [h, Except.map] at hv
  | ok r =>
    obtain ⟨⟨v', ni'⟩, hni⟩ := r
    simp only [h, Except.map, Except.ok.injEq, Prod.mk.injEq] at hv
    obtain ⟨rfl, rfl⟩ := hv
    dsimp only
    cases parseListItems input depth ni' (items ++ [v']) <;> rfl

theorem parseDictItems_end {items : List (List UInt8 × BVal)} (hb : input[i]? = some 101) :
    (parseDictItems input depth i items).map Subtype.val = .ok (.dict items, i + 1) := by
  obtain ⟨hlt, heq⟩ := List.getElem?_eq_some_iff.mp hb
  rw [parseDictItems]
  simp [hlt, heq, Except.map]

theorem parseDictItems_step {items : List (List UInt8 × BVal)} {b : UInt8} {key : List UInt8}
    {v : BVal} {ni ni2 : Nat} (hb : input[i]? = some b) (hne : b ≠ 101)
    (hlen : items.length < MAX_DICT_ITEMS)
    (hk : (parseWithDepth input i (depth + 1)).map Subtype.val = .ok (.bytes key, ni))
    (hv : (parseWithDepth input ni (depth + 1)).map Subtype.val = .ok (v, ni2)) :
    (parseDictItems input depth i items).map Subtype.val =
      (parseDictItems input depth ni2 (items ++ [(key, v)])).map Subtype.val := by
  obtain ⟨hlt, heq⟩ := List.getElem?_eq_some_iff.mp hb
  rw [parseDictItems]
  simp only [hlt, heq, hne, dif_pos, if_false, Nat.not_le.mpr hlen]
  cases h : parseWithDepth input i (depth + 1) with
  | error e => simp [h, Except.map] at hk
  | ok r =>
    obtain ⟨⟨k', ni'⟩, hni⟩ := r
    simp only [h, Except.map, Except.ok.injEq, Prod.mk.injEq] at hk
    obtain ⟨rfl, rfl⟩ := hk
    dsimp only
    cases h2 : parseWithDepth input ni' (depth + 1) with
    | error e => simp [h2, Except.map] at hv
    | ok r2 =>
      obtain ⟨⟨v', ni2'⟩, hni2⟩ := r2
      simp only [h2, Except.map, Except.ok.injEq, Prod.mk.injEq] at hv
      obtain ⟨rfl, rfl⟩ := hv
      dsimp only
      cases parseDictItems input depth ni2' (items ++ [(key, v')]) <;> rfl

end Arms

end OrcTorrent

import OrcTorrent.Handlers

/-! The length of an error body. Whenever `sanitize_error` returns, its text has at most
203 bytes: a line of more than 200 bytes is cut to its prefix of exactly 200 and given
`...`. `&sanitized[..200]` needs such a prefix, so `sanitize_error` panics exactly when
the line has more than 200 bytes and none of its prefixes has 200, as for a first line
of 67 `€` (`sanitizeError_bytes_and_panic`). -/

namespace OrcTorrent

/-! ## Bytes of a character list -/

theorem utf8ByteSize_cons (c : Char) (cs : List Char) :
    (String.mk (c :: cs)).utf8ByteSize = (String.mk cs).utf8ByteSize + c.utf8Size :=
  rfl

theorem utf8ByteSize_append (a b : List Char) :
    (String.mk (a ++ b)).utf8ByteSize = (String.mk a).utf8ByteSize + (String.mk b).utf8ByteSize := by
  induction a with
  | nil => exact (Nat.zero_add _).symm
  | cons c a ih => rw [List.cons_append, utf8ByteSize_cons, utf8ByteSize_cons, ih]; omega

/-- `takeBytes` returns the prefix of exactly `n` bytes, when there is one. -/
theorem takeBytes_eq_some {cs pre : List Char} {n : Nat} (h : takeBytes cs n = some pre) :
    pre <+: cs ∧ (String.mk pre).utf8ByteSize = n := by
  induction cs generalizing n pre with
  | nil =>
    cases n with
    | zero => cases h; exact ⟨List.nil_prefix, rfl⟩
    | succ n => cases h
  | cons c cs ih =>
    cases n with
    | zero => cases h; exact ⟨List.nil_prefix, rfl⟩
    | succ n =>
      simp only [takeBytes] at h
      split at h
      · obtain ⟨rest, hrest, rfl⟩ := Option.map_eq_some'.mp h
        obtain ⟨hpre, hsize⟩ := ih hrest
        exact ⟨List.prefix_cons_iff.mpr (.inr ⟨_, rfl, hpre⟩), by rw [utf8ByteSize_cons, hsize]; omega⟩
      · cases h

theorem takeBytes_prefix_size {cs pre : List Char} (hpre : pre <+: cs) :
    takeBytes cs (String.mk pre).utf8ByteSize = some pre := by
  induction cs generalizing pre with
  | nil => rw [List.prefix_nil.mp hpre]; rfl
  | cons c cs ih =>
    rcases List.prefix_cons_iff.mp hpre with rfl | ⟨t, rfl, ht⟩
    · rfl
    · have hc := c.utf8Size_pos
      rw [utf8ByteSize_cons, show (String.mk t).utf8ByteSize + c.utf8Size =
        ((String.mk t).utf8ByteSize + c.utf8Size - 1) + 1 by omega]
      simp only [takeBytes]
      rw [if_pos (by omega), show (String.mk t).utf8ByteSize + c.utf8Size - 1 + 1 - c.utf8Size =
        (String.mk t).utf8ByteSize by omega, ih ht, Option.map_some']

/-- `takeBytes` fails exactly when no prefix has `n` bytes: byte `n` is inside a character
or past the end. -/
theorem takeBytes_eq_none_iff (cs : List Char) (n : Nat) :
    takeBytes cs n = none ↔ ¬∃ pre, pre <+: cs ∧ (String.mk pre).utf8ByteSize = n := by
  constructor
  · rintro h ⟨pre, hpre, rfl⟩
    rw [takeBytes_prefix_size hpre] at h
    cases h
  · intro h
    cases ht : takeBytes cs n with
    | none => rfl
    | some pre => exact absurd ⟨pre, takeBytes_eq_some ht⟩ h

/-! ## `sanitize_error` -/

/-- The line `sanitize_error` cuts: the first line of the cause with the variables
redacted, or the fixed text when it mentions a token or a secret. -/
def sanitizedLine (p : Platform) (env : ProcessEnv) (cause : String) : List Char :=
  let s := redact env.userprofile "[USERPROFILE]" (redact env.appdata "[APPDATA]"
    (redact env.home "[HOME]" (firstLine cause.data)))
  let lower := (p.toLowercase (String.mk s)).data
  if (findSub "token".data lower).isSome || (findSub "secret".data lower).isSome
    then "An error occurred".data else s

/-- The three outcomes of `sanitize_error`: the whole line, its first 200 bytes with
`...`, or the panic of a cut inside a character. -/
theorem sanitizeError_cases (p : Platform) (env : ProcessEnv) (cause : String) :
    let s := sanitizedLine p env cause
    ((String.mk s).utf8ByteSize ≤ 200 ∧ sanitizeError p env cause = .ok (String.mk s)) ∨
    (200 < (String.mk s).utf8ByteSize ∧ ∃ pre, takeBytes s 200 = some pre ∧
      sanitizeError p env cause = .ok (String.mk pre ++ "...")) ∨
    (200 < (String.mk s).utf8ByteSize ∧ takeBytes s 200 = none ∧
      sanitizeError p env cause = .error (.notCharBoundary 200)) := by
  intro s
  have hdef : sanitizeError p env cause =
      if (String.mk s).utf8ByteSize > 200 then
        match takeBytes s 200 with
        | some pre => Except.ok (String.mk pre ++ "...")
        | none => Except.error (Panic.notCharBoundary 200)
      else Except.ok (String.mk s) := rfl
  rw [hdef]
  by_cases hlong : (String.mk s).utf8ByteSize > 200
  · rw [if_pos hlong]
    cases takeBytes s 200 with
    | some pre => exact .inr (.inl ⟨hlong, pre, rfl, rfl⟩)
    | none => exact .inr (.inr ⟨hlong, rfl, rfl⟩)
  · rw [if_neg hlong]
    exact .inl ⟨Nat.not_lt.mp hlong, rfl⟩

/-- Whenever `sanitize_error` returns, its text has at most 203 bytes. Its only failure is
the panic of `&sanitized[..200]`, which happens exactly when the line has more than 200
bytes and no prefix of exactly 200; a first line of 67 `€` (201 bytes) is cut inside its
last character. -/
theorem sanitizeError_bytes_and_panic :
    (∀ p env cause s, sanitizeError p env cause = .ok s → s.utf8ByteSize ≤ 203) ∧
    (∀ p env cause e, sanitizeError p env cause = .error e ↔
      e = .notCharBoundary 200 ∧ 200 < (String.mk (sanitizedLine p env cause)).utf8ByteSize ∧
        ¬∃ pre, pre <+: sanitizedLine p env cause ∧ (String.mk pre).utf8ByteSize = 200) ∧
    sanitizeError Platform.constant ⟨none, none, none⟩ ⟨List.replicate 67 '€'⟩ =
      .error (.notCharBoundary 200) := by
  refine ⟨fun p env cause s h => ?_, fun p env cause e => ?_, rfl⟩
  · rcases sanitizeError_cases p env cause with ⟨hle, hs⟩ | ⟨-, pre, hpre, hs⟩ | ⟨-, -, hs⟩
    · rw [hs] at h; cases h; omega
    · rw [hs] at h
      cases h
      show (String.mk (pre ++ "...".data)).utf8ByteSize ≤ 203
      rw [utf8ByteSize_append, (takeBytes_eq_some hpre).2]
      decide
    · rw [hs] at h; cases h
  · rw [← takeBytes_eq_none_iff]
    rcases sanitizeError_cases p env cause with ⟨hle, hs⟩ | ⟨-, pre, hpre, hs⟩ | ⟨hlt, hnone, hs⟩
    · rw [hs]
      exact ⟨fun h => (nomatch h), fun ⟨_, hlt, _⟩ => absurd hle (Nat.not_le.mpr hlt)⟩
    · rw [hs, hpre]
      exact ⟨fun h => (nomatch h), fun ⟨_, _, h⟩ => (nomatch h)⟩
    · rw [hs, hnone]
      exact ⟨fun h => ⟨(Except.error.inj h).symm, hlt, rfl⟩, fun ⟨he, _, _⟩ => he ▸ rfl⟩

end OrcTorrent

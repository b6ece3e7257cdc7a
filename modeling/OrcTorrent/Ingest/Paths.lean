import OrcTorrent.Ingest

/-! The components `split_path_components` makes of an engine's file name. Every result is
a non-empty list of at most 100 components, each non-empty, of at most 255 characters and
without a path separator. The `.`/`..` filter runs on the pieces before
`sanitize_path_component` trims them, so a piece such as `.. ` passes the filter and comes
out as `..` (`splitPathComponents_bounds_and_dot_dot`). -/

namespace OrcTorrent

/-! ## Sanitizing one piece -/

theorem sanitizePathComponent_sublist (p : Platform) (component : List Char) :
    List.Sublist (sanitizePathComponent p component) component :=
  (rustTrim_sublist _).trans ((List.take_sublist _ _).trans (List.filter_sublist _))

theorem sanitizePathComponent_length (p : Platform) (component : List Char) :
    (sanitizePathComponent p component).length ≤ 255 :=
  (rustTrim_sublist _).length_le.trans (List.length_take_le _ _)

/-! ## What `split_path_components` returns -/

/-- Every component is non-empty, at most 255 characters long and free of separators. -/
def PathComponentOk (c : String) : Prop :=
  c ≠ "" ∧ c.length ≤ 255 ∧ '/' ∉ c.data ∧ '\\' ∉ c.data

theorem splitPathComponents_ok (p : Platform) (name : String) :
    splitPathComponents p name ≠ [] ∧ (splitPathComponents p name).length ≤ 100 ∧
      ∀ c ∈ splitPathComponents p name, PathComponentOk c := by
  unfold splitPathComponents
  dsimp only
  split
  · exact ⟨by simp, by simp, fun c hc => by
      rw [List.mem_singleton.mp hc]; exact ⟨by decide, by decide, by decide, by decide⟩⟩
  · next hne =>
    refine ⟨fun h => hne (List.map_eq_nil_iff.mp h),
      (List.length_map _ _).trans_le (List.length_take_le _ _), fun c hc => ?_⟩
    obtain ⟨cs, hcs, rfl⟩ := List.mem_map.mp hc
    obtain ⟨hcs, hne⟩ := List.mem_filter.mp (List.mem_of_mem_take hcs)
    obtain ⟨piece, hpiece, rfl⟩ := List.mem_map.mp hcs
    have hsep := splitBy_sep_free _ _ piece
      (List.mem_of_mem_filter (List.mem_of_mem_filter hpiece))
    have hsub := sanitizePathComponent_sublist p piece
    refine ⟨fun h => of_decide_eq_true hne (congrArg String.data h),
      sanitizePathComponent_length p piece, fun h => ?_, fun h => ?_⟩
    · simpa using hsep '/' (hsub.subset h)
    · simpa using hsep '\\' (hsub.subset h)

theorem rustTrim_dots_spaces (n : Nat) : rustTrim ('.' :: '.' :: List.replicate n ' ') = ['.', '.'] := by
  have hsp : ∀ c ∈ List.replicate n ' ', rustIsWhitespace c = true := fun c hc => by
    rw [List.eq_of_mem_replicate hc]; decide
  simp [rustTrim, List.dropWhile_append_of_pos hsp, show rustIsWhitespace '.' = false by decide]

/-- A piece `..` followed by spaces passes the `.`/`..` filter and is trimmed to `..`. -/
theorem splitPathComponents_dots_spaces (p : Platform) (n : Nat) :
    splitPathComponents p ⟨'.' :: '.' :: List.replicate (n + 1) ' '⟩ = [".."] := by
  have hchars : ∀ c ∈ '.' :: '.' :: List.replicate (n + 1) ' ', c = '.' ∨ c = ' ' := by
    intro c hc
    rcases List.mem_cons.mp hc with rfl | hc
    · exact .inl rfl
    rcases List.mem_cons.mp hc with rfl | hc
    · exact .inl rfl
    · exact .inr (List.eq_of_mem_replicate hc)
  have hsep : ∀ c ∈ '.' :: '.' :: List.replicate (n + 1) ' ', (c = '/' || c = '\\') = false := by
    intro c hc; rcases hchars c hc with rfl | rfl <;> decide
  have hkeep : ('.' :: '.' :: List.replicate (n + 1) ' ').filter
      (fun c => p.isAlphanumeric c || pathComponentPunctuation.contains c) =
      '.' :: '.' :: List.replicate (n + 1) ' ' := by
    refine List.filter_eq_self.mpr fun c hc => ?_
    rcases hchars c hc with rfl | rfl <;> simp [pathComponentPunctuation]
  have hsan : sanitizePathComponent p ('.' :: '.' :: List.replicate (n + 1) ' ') = ['.', '.'] := by
    rw [sanitizePathComponent, hkeep, show ('.' :: '.' :: List.replicate (n + 1) ' ').take 255 =
      '.' :: '.' :: List.replicate (min 253 (n + 1)) ' ' by simp [List.take_replicate],
      rustTrim_dots_spaces]
  simp [splitPathComponents, splitBy_of_sep_free hsep, hsan]

/-- `split_path_components` keeps every component within its bounds, but a piece `..`
followed by spaces, which the `.`/`..` filter does not catch, becomes the component `..`
once trimmed. -/
theorem splitPathComponents_bounds_and_dot_dot :
    (∀ p name, splitPathComponents p name ≠ [] ∧ (splitPathComponents p name).length ≤ 100 ∧
      ∀ c ∈ splitPathComponents p name,
        c ≠ "" ∧ c.length ≤ 255 ∧ '/' ∉ c.data ∧ '\\' ∉ c.data) ∧
    ∀ p n, splitPathComponents p ⟨'.' :: '.' :: List.replicate (n + 1) ' '⟩ = [".."] :=
  ⟨fun p name => splitPathComponents_ok p name, splitPathComponents_dots_spaces⟩

end OrcTorrent

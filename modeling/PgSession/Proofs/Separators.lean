import PgSession.Text.Split

/-!
Where a text is split. Each way of splitting finds the one place that its separator marks, so a text
can be written down in parts and is taken apart into the same parts again, as long as no part holds
a separator that would be found before the right one.
-/

namespace PgSession.Proofs
open Text

section

variable {separator : Char} {text before after : List Char}

theorem splitFirst_append (free : separator ∉ before) (after : List Char) :
    splitFirst separator (before ++ separator :: after) = some (before, after) := by
  induction before with
  | nil => exact if_pos rfl
  | cons char before ih =>
    have other := List.ne_of_not_mem_cons free
    rw [List.cons_append, splitFirst, if_neg (Ne.symm other), ih (List.not_mem_of_not_mem_cons free)]
    rfl

theorem splitFirst_none (free : separator ∉ text) : splitFirst separator text = none := by
  induction text with
  | nil => rfl
  | cons char text ih =>
    have other := List.ne_of_not_mem_cons free
    rw [splitFirst, if_neg (Ne.symm other), ih (List.not_mem_of_not_mem_cons free)]
    rfl

theorem splitLast_none (free : separator ∉ text) : splitLast separator text = none := by
  induction text with
  | nil => rfl
  | cons char text ih =>
    rw [splitLast, ih (List.not_mem_of_not_mem_cons free)]
    exact if_neg (Ne.symm (List.ne_of_not_mem_cons free))

theorem splitLast_append (before : List Char) (free : separator ∉ after) :
    splitLast separator (before ++ separator :: after) = some (before, after) := by
  induction before with
  | nil =>
    rw [List.nil_append, splitLast, splitLast_none free]
    exact if_pos rfl
  | cons char before ih => rw [List.cons_append, splitLast, ih]

/-- A text that holds a separator is split by the first of them, and by the last. -/
theorem exists_first (text : List Char) (separator : Char) :
    separator ∉ text ∨ ∃ before after, text = before ++ separator :: after ∧ separator ∉ before := by
  induction text with
  | nil => exact .inl List.not_mem_nil
  | cons char text ih =>
    by_cases same : char = separator
    · exact .inr ⟨[], text, by rw [same]; rfl, List.not_mem_nil⟩
    rcases ih with free | ⟨before, after, rfl, free⟩
    · exact .inl (List.not_mem_cons_of_ne_of_not_mem (Ne.symm same) free)
    · exact .inr ⟨char :: before, after, rfl,
        List.not_mem_cons_of_ne_of_not_mem (Ne.symm same) free⟩

theorem exists_last (text : List Char) (separator : Char) :
    separator ∉ text ∨ ∃ before after, text = before ++ separator :: after ∧ separator ∉ after := by
  rcases exists_first text.reverse separator with free | ⟨before, after, same, free⟩
  · exact .inl (mt List.mem_reverse.mpr free)
  · refine .inr ⟨after.reverse, before.reverse, ?_, mt List.mem_reverse.mp free⟩
    rw [← List.reverse_inj, same]
    simp

end

/-- A part after its separator, or nothing at all. -/
def behind (separator : Char) : Option (List Char) → List Char
  | none => []
  | some part => separator :: part

section

variable {separator : Char} {text before : List Char}

theorem splitFirst_behind (free : separator ∉ before) (part? : Option (List Char)) :
    splitFirst separator (before ++ behind separator part?) = part?.map (before, ·) := by
  cases part? with
  | none =>
    rw [behind, List.append_nil]
    exact splitFirst_none free
  | some part => exact splitFirst_append free part

/-- A part that is missing is empty. -/
theorem getD_splitFirst (free : separator ∉ before) (part? : Option (List Char)) :
    (splitFirst separator (before ++ behind separator part?)).getD
      (before ++ behind separator part?, []) = (before, part?.getD []) := by
  rw [splitFirst_behind free]
  cases part? with
  | none => exact congrArg (·, []) (List.append_nil before)
  | some part => rfl

theorem exists_behind (text : List Char) (separator : Char) :
    ∃ before part?, text = before ++ behind separator part? ∧ separator ∉ before := by
  rcases exists_first text separator with free | ⟨before, after, same, free⟩
  · exact ⟨text, none, (List.append_nil text).symm, free⟩
  · exact ⟨before, some after, same, free⟩

/-- Where a part begins can be told from the text. -/
theorem behind_inj {before' : List Char} {part? part?' : Option (List Char)}
    (free : separator ∉ before) (free' : separator ∉ before')
    (same : before ++ behind separator part? = before' ++ behind separator part?') :
    before = before' ∧ part? = part?' := by
  have split := splitFirst_behind free part?
  rw [same, splitFirst_behind free'] at split
  cases part? with
  | none =>
    obtain rfl := Option.map_eq_none_iff.mp split
    exact ⟨by simpa [behind] using same, rfl⟩
  | some part =>
    obtain ⟨part', rfl, equal⟩ := Option.map_eq_some_iff.mp split
    cases equal
    exact ⟨rfl, rfl⟩

end

theorem splitAtText_sound {separator text before after : List Char}
    (found : splitAtText separator text = some (before, after)) :
    text = before ++ separator ++ after := by
  induction text generalizing before with
  | nil =>
    rw [splitAtText] at found
    split at found
    · next empty =>
      cases found
      rw [List.isEmpty_iff.mp empty]
      rfl
    · cases found
  | cons char text ih =>
    rw [splitAtText] at found
    split at found
    · next here =>
      cases found
      obtain ⟨rest, same⟩ := List.isPrefixOf_iff_prefix.mp here
      rw [← same, List.drop_left]
      rfl
    · obtain ⟨⟨front, back⟩, later, equal⟩ := Option.map_eq_some_iff.mp found
      cases equal
      rw [ih later]
      rfl

/-- The first character of the separator is enough to find it. -/
theorem splitAtText_append {first : Char} {more before : List Char} (free : first ∉ before)
    (after : List Char) :
    splitAtText (first :: more) (before ++ (first :: more) ++ after) = some (before, after) := by
  induction before with
  | nil =>
    have here : (first :: more).isPrefixOf (first :: (more ++ after)) = true :=
      List.isPrefixOf_iff_prefix.mpr ⟨after, rfl⟩
    change splitAtText (first :: more) (first :: (more ++ after)) = _
    have behind : (first :: (more ++ after)).drop (first :: more).length = after := List.drop_left
    rw [splitAtText, if_pos here, behind]
  | cons char before ih =>
    have other := List.ne_of_not_mem_cons free
    have elsewhere : ¬ (first :: more).isPrefixOf (char :: (before ++ (first :: more) ++ after)) = true := by
      rw [List.isPrefixOf_iff_prefix, List.cons_prefix_cons]
      exact fun both => other both.1
    change splitAtText (first :: more) (char :: (before ++ (first :: more) ++ after)) = _
    rw [splitAtText, if_neg elsewhere, ih (List.not_mem_of_not_mem_cons free)]
    rfl

theorem splitAll_eq_splitOn (separator : Char) (text : List Char) :
    splitAll separator text = text.splitOn separator := by
  induction text with
  | nil => rfl
  | cons char text ih =>
    rw [splitAll, List.splitOn_cons_eq_if_modifyHead, ih]
    by_cases same : char = separator
    · rw [if_pos same, if_pos (beq_iff_eq.mpr same)]
    · rw [if_neg same, if_neg (mt beq_iff_eq.mp same)]
      cases pieces : text.splitOn separator with
      | nil => exact absurd pieces (List.splitOn_ne_nil separator text)
      | cons piece pieces => rfl

end PgSession.Proofs

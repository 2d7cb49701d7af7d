/-
Texts cut at a separator: once at its first place, or at every place.
-/

namespace Dataflow.Text

/-- What stands before and behind the first separator, if there is one. -/
def cut (separator : Char) (cs : List Char) : Option (List Char × List Char) :=
  match cs.dropWhile (· != separator) with
  | [] => none
  | _ :: rest => some (cs.takeWhile (· != separator), rest)

/-- The pieces between all separators: one more than there are separators. -/
def pieces (separator : Char) : List Char → List (List Char)
  | [] => [[]]
  | c :: rest =>
    if c = separator then [] :: pieces separator rest
    else
      match pieces separator rest with
      | [] => [[c]]
      | piece :: others => (c :: piece) :: others

theorem pieces_ne_nil (separator : Char) : ∀ cs : List Char, pieces separator cs ≠ []
  | [] => by simp [pieces]
  | c :: rest => by
    unfold pieces
    split
    · simp
    · split <;> simp

theorem pieces_of_not_mem {separator : Char} :
    ∀ {cs : List Char}, separator ∉ cs → pieces separator cs = [cs]
  | [], _ => rfl
  | c :: rest, h => by
    have ⟨hc, hrest⟩ : separator ≠ c ∧ separator ∉ rest := by simpa using h
    simp [pieces, Ne.symm hc, pieces_of_not_mem hrest]

theorem pieces_append {separator : Char} (behind : List Char) :
    ∀ {before : List Char}, separator ∉ before →
      pieces separator (before ++ separator :: behind) = before :: pieces separator behind
  | [], _ => by simp [pieces]
  | c :: rest, h => by
    have ⟨hc, hrest⟩ : separator ≠ c ∧ separator ∉ rest := by simpa using h
    simp [pieces, Ne.symm hc, pieces_append behind hrest]

/-- Nothing is lost by the first cut, and no separator stands before it. -/
theorem eq_of_cut {separator : Char} {cs before behind : List Char}
    (h : cut separator cs = some (before, behind)) :
    cs = before ++ separator :: behind ∧ separator ∉ before := by
  have whole := List.takeWhile_append_dropWhile (p := (· != separator)) (l := cs)
  unfold cut at h
  split at h
  next => simp at h
  next c rest heq =>
    obtain ⟨rfl, rfl⟩ : cs.takeWhile (· != separator) = before ∧ rest = behind := by simpa using h
    have hc : c = separator := by
      have := List.head?_dropWhile_not (· != separator) cs
      rw [heq] at this
      simpa using this
    subst hc
    refine ⟨by rw [← heq, whole], fun hmem => ?_⟩
    have all := List.all_takeWhile (p := (· != c)) (l := cs)
    have := List.all_eq_true.mp all _ hmem
    simp at this

end Dataflow.Text

/-!
# Pieces of a text

A text cut at its separators. There is always one piece more than separators, and the pieces with the
separators between them are the text again.
-/

namespace DatasetLint.Text

/-- The pieces of a text between the characters that separate. -/
def pieces (separates : Char → Bool) : List Char → List (List Char)
  | [] => [[]]
  | c :: cs =>
    if separates c then [] :: pieces separates cs
    else
      match pieces separates cs with
      | [] => [[c]]
      | p :: ps => (c :: p) :: ps

theorem pieces_ne_nil (separates : Char → Bool) (cs : List Char) : pieces separates cs ≠ [] := by
  cases cs with
  | nil => simp [pieces]
  | cons c cs =>
    simp only [pieces]
    split
    · simp
    · split <;> simp

/-- Pieces with a separator between each two. -/
def join (separator : List Char) : List (List Char) → List Char
  | [] => []
  | [p] => p
  | p :: ps => p ++ separator ++ join separator ps

theorem join_pieces (c : Char) (cs : List Char) : join [c] (pieces (· == c) cs) = cs := by
  induction cs with
  | nil => rfl
  | cons d ds ih =>
    have hne := pieces_ne_nil (· == c) ds
    simp only [pieces]
    by_cases h : d = c
    · subst h
      obtain ⟨p, ps, e⟩ := List.exists_cons_of_ne_nil hne
      rw [e] at ih
      simp [e, join, ih]
    · obtain ⟨p, ps, e⟩ := List.exists_cons_of_ne_nil hne
      rw [e] at ih
      simp only [beq_iff_eq, h, if_false, e]
      cases ps with
      | nil => simpa [join] using ih
      | cons q qs => simpa [join] using ih

/-- Whether a text begins with another one. -/
def startsWith (start s : String) : Bool := start.toList.isPrefixOf s.toList

/-- A text with a word between each two. -/
def intercalate (separator : String) (ps : List String) : String :=
  String.ofList (join separator.toList (ps.map String.toList))

end DatasetLint.Text

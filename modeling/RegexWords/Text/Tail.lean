namespace RegexWords.Text

/-- What is left of a text when at least one character was taken from its front. -/
def ProperTail (rest cs : List Char) : Prop :=
  ∃ c taken, cs = c :: taken ++ rest

namespace ProperTail

variable {a b : List Char}

theorem isSuffix (h : ProperTail a b) : a <:+ b := by
  obtain ⟨c, taken, rfl⟩ := h
  exact List.suffix_append _ _

theorem cons (x : Char) : ProperTail a (x :: a) := ⟨x, [], rfl⟩

theorem cons_of_isSuffix (x : Char) (h : a <:+ b) : ProperTail a (x :: b) := by
  obtain ⟨taken, rfl⟩ := h
  exact ⟨x, taken, rfl⟩

theorem cons_trans (x : Char) (h : ProperTail a b) : ProperTail a (x :: b) :=
  cons_of_isSuffix x h.isSuffix

end ProperTail

end RegexWords.Text

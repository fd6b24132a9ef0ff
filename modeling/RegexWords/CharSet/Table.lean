import RegexWords.CharSet.Compiler

namespace RegexWords

variable [Compiler]

/-- Matchers of class texts, kept so that none is compiled twice. The place of a text identifies its
matcher. -/
structure ClassTable where
  entries : List (String × Matcher)
  matcher_entries : ∀ e ∈ entries, ClassText.matcher? e.1 = some e.2

namespace ClassTable

def empty : ClassTable := ⟨[], by simp⟩

def keep (t : ClassTable) (text : String) (matcher : Matcher)
    (h : ClassText.matcher? text = some matcher) : ClassTable where
  entries := t.entries ++ [(text, matcher)]
  matcher_entries := by
    intro e he
    rcases List.mem_append.1 he with he | he
    · exact t.matcher_entries e he
    · rw [List.mem_singleton.1 he]
      exact h

def size (t : ClassTable) : Nat := t.entries.length

def isEmpty (t : ClassTable) : Bool := t.entries.isEmpty

def slot? (t : ClassTable) (text : String) : Option Nat :=
  t.entries.findIdx? (·.1 == text)

def kept? (t : ClassTable) (text : String) : Option Matcher :=
  t.entries.lookup text

def isKnown (t : ClassTable) (text : String) : Bool :=
  (t.kept? text).isSome

def request (t : ClassTable) (text : String) : Option Matcher × ClassTable :=
  match t.kept? text with
  | some matcher => (some matcher, t)
  | none =>
    match h : ClassText.matcher? text with
    | some matcher => (some matcher, t.keep text matcher h)
    | none => (none, t)

def filter (t : ClassTable) (text : String) (candidates : List Char) :
    Option (List Char) × ClassTable :=
  ((t.request text).1.map candidates.filter, (t.request text).2)

theorem matcher_of_kept? {t : ClassTable} {text : String} {matcher : Matcher}
    (h : t.kept? text = some matcher) : ClassText.matcher? text = some matcher := by
  obtain ⟨before, after, he, -⟩ := List.lookup_eq_some_iff.1 h
  exact t.matcher_entries (text, matcher) (by simp [he])

theorem matcher_request (t : ClassTable) (text : String) :
    (t.request text).1 = ClassText.matcher? text := by
  unfold request
  split
  · next matcher h => exact (matcher_of_kept? h).symm
  · split <;> simp_all

theorem found_filter (t : ClassTable) (text : String) (candidates : List Char) :
    (t.filter text candidates).1 = (ClassText.matcher? text).map candidates.filter := by
  rw [filter, matcher_request]

theorem table_request_of_known {t : ClassTable} {text : String} (h : t.isKnown text) :
    (t.request text).2 = t := by
  obtain ⟨matcher, hm⟩ := Option.isSome_iff_exists.1 h
  simp only [request, hm]

theorem table_request_of_uncompiled {t : ClassTable} {text : String}
    (h : ClassText.matcher? text = none) : (t.request text).2 = t := by
  unfold request
  split
  · rfl
  · split
    · next hm => rw [h] at hm; cases hm
    · rfl

end ClassTable

end RegexWords

import Mathlib.Algebra.BigOperators.Group.List.Basic
import RegexWords.Proofs.Pattern.Language

namespace RegexWords

def InOrder : List (ℕ → ℕ → Prop) → ℕ → ℕ → Prop
  | [], i, j => i = j
  | R :: Rs, i, k => ∃ j, R i j ∧ InOrder Rs j k

def Takes (text cs : List Char) (i j : ℕ) : Prop :=
  j = i + 1 ∧ ∃ c ∈ cs, text[i]? = some c

def Anchor.Holds (text : List Char) (i : ℕ) : Anchor → Prop
  | .textStart => i = 0
  | .textEnd => i = text.length
  | .wordBoundary | .notWordBoundary => False

namespace Pattern

variable [Compiler] {a : Alphabets} {text : List Char}

mutual

/-- A pattern matches what stands between two places of a text. A set stands for the characters that
it is listed with, and what is not listed matches nothing. -/
def Matches (a : Alphabets) (text : List Char) : Pattern → ℕ → ℕ → Prop
  | .sequence ps => InOrder (matchers a text ps)
  | .choice ps => fun i j ↦ ∃ R ∈ matchers a text ps, R i j
  | .anchor x => fun i j ↦ i = j ∧ x.Holds text i
  | .group kind ps => fun i j ↦ kind.isPlain ∧ InOrder (matchers a text ps) i j
  | .repetition b _ p => fun i j ↦
    ∃ n, b.Admits n ∧ InOrder (List.replicate n (Matches a text p)) i j
  | .literal c => Takes text [c]
  | .range first last => Takes text (Interval.all first last)
  | .shorthand tag => Takes text (a.shorthand tag)
  | .bracket ps negated raw => fun i j ↦
    if negated then Takes text (a.accepted raw) i j else ∃ R ∈ matchers a text ps, R i j
  | .anyCharacter => Takes text a.anyCharacter
  | .reference _ => fun _ _ ↦ False

def matchers (a : Alphabets) (text : List Char) : List Pattern → List (ℕ → ℕ → Prop)
  | [] => []
  | p :: ps => Matches a text p :: matchers a text ps

end

theorem matchers_eq_map (ps : List Pattern) : matchers a text ps = ps.map (Matches a text) := by
  induction ps with
  | nil => rfl
  | cons p ps ih => rw [matchers, ih, List.map_cons]

theorem matches_sequence (ps : List Pattern) :
    Matches a text (.sequence ps) = InOrder (ps.map (Matches a text)) := by
  rw [Matches, matchers_eq_map]

theorem matches_choice_iff {ps : List Pattern} {i j : ℕ} :
    Matches a text (.choice ps) i j ↔ ∃ p ∈ ps, Matches a text p i j := by
  simp [Matches, matchers_eq_map]

theorem matches_group_iff {kind : GroupKind} {ps : List Pattern} {i j : ℕ} :
    Matches a text (.group kind ps) i j ↔ kind.isPlain ∧ InOrder (ps.map (Matches a text)) i j := by
  rw [Matches, matchers_eq_map]

theorem matches_repetition_iff {b : Bounds} {greedy : Bool} {p : Pattern} {i j : ℕ} :
    Matches a text (.repetition b greedy p) i j ↔
      ∃ n, b.Admits n ∧ InOrder ((List.replicate n p).map (Matches a text)) i j := by
  simp only [Matches, List.map_replicate]

theorem matches_bracket_iff {ps : List Pattern} {raw : String} {i j : ℕ} :
    Matches a text (.bracket ps false raw) i j ↔ ∃ p ∈ ps, Matches a text p i j := by
  simp [Matches, matchers_eq_map]

end Pattern

/-- What a relation leads over, from any place on, is a word of a language. -/
def Spells (text : List Char) (R : ℕ → ℕ → Prop) (L : Language Char) : Prop :=
  ∀ front rest j, text = front ++ rest → R front.length j →
    ∃ w ∈ L, ∃ tail, rest = w ++ tail ∧ j = (front ++ w).length

section Spelling

variable {text : List Char} {L : Language Char} {R : ℕ → ℕ → Prop}

theorem spells_takes (cs : List Char) : Spells text (Takes text cs) (oneOf cs) := by
  rintro front rest _ rfl ⟨rfl, c, hc, hget⟩
  rw [List.getElem?_append_right le_rfl, Nat.sub_self] at hget
  cases rest with
  | nil => cases hget
  | cons d rest =>
    cases hget
    exact ⟨[c], ⟨c, hc, rfl⟩, rest, rfl, by simp⟩

theorem spells_inOrder {ps : List Pattern} {f : Pattern → ℕ → ℕ → Prop}
    {g : Pattern → Language Char} (h : ∀ p ∈ ps, Spells text (f p) (g p)) :
    Spells text (InOrder (ps.map f)) (ps.map g).prod := by
  induction ps with
  | nil =>
    rintro front rest _ - rfl
    exact ⟨[], rfl, rest, rfl, by simp⟩
  | cons p ps ih =>
    rw [List.forall_mem_cons] at h
    rintro front _ k htext ⟨j, hp, hps⟩
    obtain ⟨u, hu, rest, rfl, rfl⟩ := h.1 front _ j htext hp
    rw [← List.append_assoc] at htext
    obtain ⟨v, hv, tail, rfl, rfl⟩ := ih h.2 (front ++ u) rest k htext hps
    exact ⟨u ++ v, Language.append_mem_mul hu hv, tail, by simp, by simp⟩

theorem spells_exists {ps : List Pattern} {f : Pattern → ℕ → ℕ → Prop}
    {g : Pattern → Language Char} (h : ∀ p ∈ ps, Spells text (f p) (g p)) :
    Spells text (fun i j ↦ ∃ p ∈ ps, f p i j) (ps.map g).sum := by
  rintro front rest j htext ⟨p, hp, hj⟩
  obtain ⟨w, hw, tail, hrest⟩ := h p hp front rest j htext hj
  exact ⟨w, mem_sum_iff.2 ⟨g p, List.mem_map_of_mem hp, hw⟩, tail, hrest⟩

end Spelling

namespace Pattern

variable [Compiler] {a : Alphabets} {text : List Char}

/-- A pattern matches its words only. -/
theorem spells_language (p : Pattern) : Spells text (p.Matches a text) (p.language a) := by
  induction p with
  | sequence ps ih =>
    rw [matches_sequence, language, languageWith_sequence]
    exact spells_inOrder ih
  | choice ps ih =>
    rw [language, languageWith_choice]
    exact fun front rest j htext h ↦ spells_exists ih front rest j htext (matches_choice_iff.1 h)
  | anchor x =>
    rintro front rest _ - ⟨rfl, hx⟩
    have hend : x.isEnd := by
      cases x with
      | textStart | textEnd => rfl
      | wordBoundary | notWordBoundary => cases hx
    refine ⟨[], ?_, rest, rfl, by simp⟩
    rw [language, languageWith, if_pos hend]
    rfl
  | group kind ps ih =>
    intro front rest j htext h
    obtain ⟨hkind, h⟩ := matches_group_iff.1 h
    rw [language, languageWith_group, if_pos hkind]
    exact spells_inOrder ih front rest j htext h
  | repetition b greedy p ih =>
    intro front rest j htext h
    obtain ⟨n, hn, h⟩ := matches_repetition_iff.1 h
    have hcopies : ∀ q ∈ List.replicate n p, Spells text (q.Matches a text) (q.language a) :=
      fun q hq ↦ List.eq_of_mem_replicate hq ▸ ih
    obtain ⟨w, hw, hrest⟩ := spells_inOrder hcopies front rest j htext h
    rw [List.map_replicate, List.prod_replicate] at hw
    exact ⟨w, ⟨n, hn, hw⟩, hrest⟩
  | literal c => exact spells_takes [c]
  | range first last => exact spells_takes _
  | shorthand tag => exact spells_takes _
  | bracket ps negated raw ih =>
    cases negated with
    | false =>
      rw [language, languageWith_bracket]
      exact fun front rest j htext h ↦
        spells_exists ih front rest j htext (matches_bracket_iff.1 h)
    | true => exact spells_takes _
  | anyCharacter => exact spells_takes _
  | reference id => exact fun _ _ _ _ h ↦ h.elim

end Pattern

end RegexWords

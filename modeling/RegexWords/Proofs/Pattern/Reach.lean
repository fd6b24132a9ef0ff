import Mathlib.Algebra.BigOperators.Group.List.Basic
import RegexWords.Proofs.Pattern.Language

namespace RegexWords

def HasWord (L : Language Char) : Prop := ∃ w, w ∈ L

def HasLetters (L : Language Char) : Prop := ∃ w ∈ L, w ≠ []

def powers (L : Language Char) (counts : ℕ → Prop) : Language Char :=
  {w | ∃ n, counts n ∧ w ∈ L ^ n}

section Languages

variable {L : Language Char} {Ls : List (Language Char)}

theorem hasWord_prod (h : ∀ L ∈ Ls, HasWord L) : HasWord Ls.prod := by
  induction Ls with
  | nil => exact ⟨[], rfl⟩
  | cons L Ls ih =>
    rw [List.forall_mem_cons] at h
    obtain ⟨u, hu⟩ := h.1
    obtain ⟨v, hv⟩ := ih h.2
    rw [List.prod_cons]
    exact ⟨u ++ v, Language.append_mem_mul hu hv⟩

theorem hasLetters_mul_iff {M : Language Char} (hL : HasWord L) (hM : HasWord M) :
    HasLetters (L * M) ↔ HasLetters L ∨ HasLetters M := by
  constructor
  · rintro ⟨w, hw, hne⟩
    obtain ⟨u, hu, v, hv, rfl⟩ := Language.mem_mul.1 hw
    by_cases hnil : u = []
    · exact .inr ⟨v, hv, fun hv ↦ hne (by rw [hnil, hv, List.nil_append])⟩
    · exact .inl ⟨u, hu, hnil⟩
  · rintro (⟨u, hu, hne⟩ | ⟨v, hv, hne⟩)
    · obtain ⟨v, hv⟩ := hM
      exact ⟨u ++ v, Language.append_mem_mul hu hv, List.append_ne_nil_of_left_ne_nil hne v⟩
    · obtain ⟨u, hu⟩ := hL
      exact ⟨u ++ v, Language.append_mem_mul hu hv, List.append_ne_nil_of_right_ne_nil u hne⟩

theorem not_hasLetters_one : ¬HasLetters 1 := by
  rintro ⟨w, hw, hne⟩
  exact hne hw

theorem hasLetters_prod_iff (h : ∀ L ∈ Ls, HasWord L) :
    HasLetters Ls.prod ↔ ∃ L ∈ Ls, HasLetters L := by
  induction Ls with
  | nil => simp [not_hasLetters_one]
  | cons L Ls ih =>
    rw [List.forall_mem_cons] at h
    rw [List.prod_cons, hasLetters_mul_iff h.1 (hasWord_prod h.2), ih h.2,
      List.exists_mem_cons_iff]

theorem hasWord_sum_iff : HasWord Ls.sum ↔ ∃ L ∈ Ls, HasWord L := by
  simp only [HasWord, mem_sum_iff]
  grind

theorem hasLetters_sum_iff : HasLetters Ls.sum ↔ ∃ L ∈ Ls, HasLetters L := by
  simp only [HasLetters, mem_sum_iff]
  grind

theorem mem_powers {counts : ℕ → Prop} {w : List Char} :
    w ∈ powers L counts ↔ ∃ n, counts n ∧ w ∈ L ^ n := Iff.rfl

theorem hasWord_pow (h : HasWord L) (n : ℕ) : HasWord (L ^ n) := by
  rw [← List.prod_replicate]
  apply hasWord_prod
  intro M hM
  rwa [List.eq_of_mem_replicate hM]

theorem hasLetters_pow_iff (h : HasWord L) (n : ℕ) : HasLetters (L ^ n) ↔ 0 < n ∧ HasLetters L := by
  rw [← List.prod_replicate, hasLetters_prod_iff]
  · simp only [List.mem_replicate]
    grind
  · intro M hM
    rwa [List.eq_of_mem_replicate hM]

theorem eq_one_of_not_hasLetters (h : HasWord L) (hL : ¬HasLetters L) : L = 1 := by
  have hnil : ∀ w ∈ L, w = [] := fun w hw ↦ by_contra fun hne ↦ hL ⟨w, hw, hne⟩
  refine Language.ext fun w ↦ ⟨hnil w, ?_⟩
  rintro rfl
  obtain ⟨w, hw⟩ := h
  rwa [hnil w hw] at hw

theorem hasWord_oneOf {cs : List Char} (h : cs ≠ []) : HasWord (oneOf cs) := by
  obtain ⟨c, hc⟩ := List.exists_mem_of_ne_nil cs h
  exact ⟨[c], c, hc, rfl⟩

theorem hasLetters_oneOf {cs : List Char} (h : cs ≠ []) : HasLetters (oneOf cs) := by
  obtain ⟨c, hc⟩ := List.exists_mem_of_ne_nil cs h
  exact ⟨[c], ⟨c, hc, rfl⟩, List.cons_ne_nil c []⟩

theorem oneOf_spec {cs : List Char} (h : cs ≠ []) :
    HasWord (oneOf cs) ∧ (true ↔ HasLetters (oneOf cs)) :=
  ⟨hasWord_oneOf h, iff_of_true rfl (hasLetters_oneOf h)⟩

end Languages

namespace Pattern

mutual

def hasLetters : Pattern → Bool
  | .sequence ps => anyHasLetters ps
  | .choice ps => anyHasLetters ps
  | .anchor _ => false
  | .group _ ps => anyHasLetters ps
  | .repetition b _ p => b.most != some 0 && hasLetters p
  | .literal _ => true
  | .range _ _ => true
  | .shorthand _ => true
  | .bracket ps negated _ => negated || anyHasLetters ps
  | .anyCharacter => true
  | .reference _ => false

def anyHasLetters : List Pattern → Bool
  | [] => false
  | p :: ps => hasLetters p || anyHasLetters ps

end

mutual

/-- More words the further repetitions go on. -/
def isEndless : Pattern → Bool
  | .sequence ps => anyIsEndless ps
  | .choice ps => anyIsEndless ps
  | .anchor _ => false
  | .group _ ps => anyIsEndless ps
  | .repetition b _ p =>
    match b.most with
    | none => hasLetters p
    | some m => 0 < m && isEndless p
  | .literal _ => false
  | .range _ _ => false
  | .shorthand _ => false
  | .bracket ps negated _ => !negated && anyIsEndless ps
  | .anyCharacter => false
  | .reference _ => false

def anyIsEndless : List Pattern → Bool
  | [] => false
  | p :: ps => isEndless p || anyIsEndless ps

end

theorem anyHasLetters_eq_any (ps : List Pattern) : anyHasLetters ps = ps.any hasLetters := by
  induction ps with
  | nil => rfl
  | cons p ps ih => rw [anyHasLetters, ih, List.any_cons]

theorem anyIsEndless_eq_any (ps : List Pattern) : anyIsEndless ps = ps.any isEndless := by
  induction ps with
  | nil => rfl
  | cons p ps ih => rw [anyIsEndless, ih, List.any_cons]

theorem hasLetters_of_isEndless {p : Pattern} (h : p.isEndless) : p.hasLetters := by
  induction p with
  | sequence ps ih | choice ps ih | group kind ps ih =>
    rw [isEndless, anyIsEndless_eq_any, List.any_eq_true] at h
    obtain ⟨p, hp, hend⟩ := h
    rw [hasLetters, anyHasLetters_eq_any, List.any_eq_true]
    exact ⟨p, hp, ih p hp hend⟩
  | repetition b greedy p ih =>
    obtain ⟨least, most⟩ := b
    cases most with
    | none => simpa [isEndless, hasLetters] using h
    | some m =>
      simp only [isEndless, Bool.and_eq_true, decide_eq_true_eq] at h
      simp [hasLetters, ih h.2, h.1.ne']
  | bracket ps negated text ih =>
    simp only [isEndless, anyIsEndless_eq_any, Bool.and_eq_true, List.any_eq_true] at h
    obtain ⟨-, p, hp, hend⟩ := h
    rw [hasLetters, anyHasLetters_eq_any, Bool.or_eq_true, List.any_eq_true]
    exact .inr ⟨p, hp, ih p hp hend⟩
  | anchor | literal | range | shorthand | anyCharacter | reference => cases h

section Repetition

variable {b : Bounds} {greedy : Bool} {p : Pattern}

theorem isEndless_repetition_iff (h : p.isEndless) :
    (repetition b greedy p).isEndless ↔ b.most ≠ some 0 := by
  obtain ⟨least, most⟩ := b
  cases most with
  | none => simp [isEndless, hasLetters_of_isEndless h]
  | some m => simp [isEndless, h, Nat.pos_iff_ne_zero]

theorem isEndless_repetition_iff_of_not (h : ¬p.isEndless) :
    (repetition b greedy p).isEndless ↔ b.most = none ∧ p.hasLetters := by
  obtain ⟨least, most⟩ := b
  cases most with
  | none => simp [isEndless]
  | some m => simp [isEndless, h]

end Repetition

/-- No repetition goes on behind a body with ever more words. -/
def isSteady : Pattern → Bool
  | .repetition b _ p => !p.isEndless || b.most.any (· ≤ max b.least 1)
  | _ => true

def isInhabited : Pattern → Bool
  | .choice ps => !ps.isEmpty
  | .bracket ps negated _ => negated || !ps.isEmpty
  | _ => true

end Pattern

def Alphabets.isFull (a : Alphabets) : Bool :=
  !a.anyCharacter.isEmpty && !a.space.isEmpty && !a.word.isEmpty && !a.digit.isEmpty

theorem Alphabets.isFull_iff {a : Alphabets} :
    a.isFull ↔ a.anyCharacter ≠ [] ∧ a.space ≠ [] ∧ a.word ≠ [] ∧ a.digit ≠ [] := by
  simp only [isFull, Bool.and_eq_true, Bool.not_eq_true', List.isEmpty_eq_false_iff, and_assoc]

theorem Interval.all_ne_nil {first last : Char} (h : first ≤ last) : all first last ≠ [] :=
  List.ne_nil_of_mem (mem_all.2 ⟨Char.le_refl first, h⟩)

namespace Pattern

variable [Compiler] {a : Alphabets}

/-- The words of a pattern with a part repeated at most once, or the least number of times, if it
has more words the further repetitions go on. -/
noncomputable def reach (a : Alphabets) (p : Pattern) : Language Char :=
  languageWith a (fun b p n ↦ b.Admits n ∧ (p.isEndless → n ≤ max b.least 1)) p

/-- Nothing keeps the pattern from being listed or leaves it without words. -/
def isProper (a : Alphabets) (p : Pattern) : Bool :=
  p.isListable a && p.isOrdered && p.isInhabited

theorem reach_sequence (ps : List Pattern) :
    (sequence ps).reach a = (ps.map (reach a)).prod := languageWith_sequence ps

theorem reach_choice (ps : List Pattern) : (choice ps).reach a = (ps.map (reach a)).sum :=
  languageWith_choice ps

theorem reach_group {kind : GroupKind} (h : kind.isPlain) (ps : List Pattern) :
    (group kind ps).reach a = (ps.map (reach a)).prod := by
  rw [reach, languageWith_group, if_pos h]
  rfl

theorem reach_bracket (ps : List Pattern) (text : String) :
    (bracket ps false text).reach a = (ps.map (reach a)).sum := languageWith_bracket ps text

theorem reach_repetition (b : Bounds) (greedy : Bool) (p : Pattern) :
    (repetition b greedy p).reach a =
      powers (p.reach a) fun n ↦ b.Admits n ∧ (p.isEndless → n ≤ max b.least 1) := by
  rw [reach, languageWith]
  rfl

theorem mem_language_of_mem_reach {p : Pattern} {w : List Char} (h : w ∈ p.reach a) :
    w ∈ p.language a :=
  Widens.mem (fun _ _ _ _ _ hn ↦ hn.1) w h

/-- All words are within reach unless repetitions go on behind endless bodies. -/
theorem mem_reach_of_mem_language {p : Pattern} (hp : ∀ q ∈ p.nodes, q.isSteady) {w : List Char}
    (h : w ∈ p.language a) : w ∈ p.reach a := by
  refine Widens.mem (fun b greedy q hq n hn ↦ ⟨hn, fun hend ↦ ?_⟩) w h
  have hsteady := hp _ hq
  simp only [isSteady, hend, Bool.not_true, Bool.false_or, Option.any_eq_true,
    decide_eq_true_eq] at hsteady
  obtain ⟨m, hm, hle⟩ := hsteady
  exact (hn.2 m hm).trans hle

end Pattern

namespace Bounds

variable {b : Bounds}

theorem admits_least (h : b.inOrder) : b.Admits b.least := by
  refine ⟨le_rfl, fun m hm ↦ ?_⟩
  simpa [inOrder, Option.mem_def.1 hm] using h

theorem admits_max_one (h : b.inOrder) (hb : b.most ≠ some 0) : b.Admits (max b.least 1) := by
  refine ⟨le_max_left _ _, fun m hm ↦ max_le ((admits_least h).2 m hm) ?_⟩
  refine Nat.one_le_iff_ne_zero.2 fun hzero ↦ hb ?_
  rw [← hzero, Option.mem_def.1 hm]

theorem eq_zero_of_admits {n : ℕ} (hn : b.Admits n) (hb : b.most = some 0) : n = 0 :=
  Nat.le_zero.1 (hn.2 0 hb)

end Bounds

theorem Alphabets.shorthand_ne_nil [Compiler] {a : Alphabets} (ha : a.isFull) {tag : Char}
    (h : (Pattern.shorthand tag).isListable a) : a.shorthand tag ≠ [] := by
  obtain ⟨-, hspace, hword, hdigit⟩ := isFull_iff.1 ha
  rw [Pattern.isListable, Bool.or_eq_true] at h
  rcases h with hnamed | hne
  · rw [shorthand]
    unfold named? at hnamed ⊢
    split at hnamed
    · exact hdigit
    · exact hword
    · exact hspace
    · cases hnamed
  · simpa using hne

namespace Pattern

variable [Compiler] {a : Alphabets}

theorem forall_mem_children {p : Pattern} (h : ∀ q ∈ p.nodes, q.isProper a) :
    p.isListable a ∧ p.isOrdered ∧ p.isInhabited ∧
      ∀ c ∈ p.children, ∀ q ∈ c.nodes, q.isProper a := by
  obtain ⟨hp, hc⟩ := forall_mem_nodes.1 h
  simp only [isProper, Bool.and_eq_true, and_assoc] at hp
  exact ⟨hp.1, hp.2.1, hp.2.2, hc⟩

section Parts

variable {ps : List Pattern} (h : ∀ p ∈ ps, HasWord (p.reach a) ∧
  (p.hasLetters ↔ HasLetters (p.reach a)))

include h

theorem reach_prod_spec :
    HasWord (ps.map (reach a)).prod ∧
      (anyHasLetters ps ↔ HasLetters (ps.map (reach a)).prod) := by
  have hwords : ∀ L ∈ ps.map (reach a), HasWord L := by
    rw [List.forall_mem_map]
    exact fun p hp ↦ (h p hp).1
  refine ⟨hasWord_prod hwords, ?_⟩
  rw [hasLetters_prod_iff hwords, anyHasLetters_eq_any, List.any_eq_true]
  simp only [List.mem_map, exists_exists_and_eq_and]
  exact exists_congr fun p ↦ and_congr_right fun hp ↦ (h p hp).2

theorem reach_sum_spec (hne : ps ≠ []) :
    HasWord (ps.map (reach a)).sum ∧
      (anyHasLetters ps ↔ HasLetters (ps.map (reach a)).sum) := by
  rw [hasWord_sum_iff, hasLetters_sum_iff, anyHasLetters_eq_any, List.any_eq_true]
  simp only [List.mem_map, exists_exists_and_eq_and]
  constructor
  · obtain ⟨p, hp⟩ := List.exists_mem_of_ne_nil ps hne
    exact ⟨p, hp, (h p hp).1⟩
  · exact exists_congr fun p ↦ and_congr_right fun hp ↦ (h p hp).2

end Parts

theorem reach_repetition_spec {b : Bounds} {greedy : Bool} {p : Pattern} (hb : b.inOrder)
    (h : HasWord (p.reach a)) (hp : p.hasLetters ↔ HasLetters (p.reach a)) :
    HasWord ((repetition b greedy p).reach a) ∧
      ((repetition b greedy p).hasLetters ↔ HasLetters ((repetition b greedy p).reach a)) := by
  rw [reach_repetition]
  constructor
  · obtain ⟨w, hw⟩ := hasWord_pow h b.least
    exact ⟨w, b.least, ⟨Bounds.admits_least hb, fun _ ↦ le_max_left _ _⟩, hw⟩
  rw [hasLetters, Bool.and_eq_true, hp, bne_iff_ne]
  constructor
  · rintro ⟨hmost, hletters⟩
    obtain ⟨w, hw, hne⟩ := (hasLetters_pow_iff h (max b.least 1)).2 ⟨by omega, hletters⟩
    exact ⟨w, ⟨_, ⟨Bounds.admits_max_one hb hmost, fun _ ↦ le_rfl⟩, hw⟩, hne⟩
  · rintro ⟨w, ⟨n, ⟨hn, -⟩, hw⟩, hne⟩
    obtain ⟨hpos, hletters⟩ := (hasLetters_pow_iff h n).1 ⟨w, hw, hne⟩
    exact ⟨fun hzero ↦ hpos.ne' (Bounds.eq_zero_of_admits hn hzero), hletters⟩

theorem reach_spec (ha : a.isFull) {p : Pattern} (h : ∀ q ∈ p.nodes, q.isProper a) :
    HasWord (p.reach a) ∧ (p.hasLetters ↔ HasLetters (p.reach a)) := by
  induction p with
  | sequence ps ih =>
    obtain ⟨-, -, -, hps⟩ := forall_mem_children h
    rw [reach_sequence, hasLetters]
    exact reach_prod_spec fun p hp ↦ ih p hp (hps p hp)
  | choice ps ih =>
    obtain ⟨-, -, hne, hps⟩ := forall_mem_children h
    rw [reach_choice, hasLetters]
    exact reach_sum_spec (fun p hp ↦ ih p hp (hps p hp)) (by simpa [isInhabited] using hne)
  | anchor x =>
    obtain ⟨hx, -⟩ := forall_mem_children h
    rw [isListable] at hx
    rw [reach, languageWith, if_pos hx]
    exact ⟨⟨[], rfl⟩, iff_of_false Bool.false_ne_true not_hasLetters_one⟩
  | group kind ps ih =>
    obtain ⟨hkind, -, -, hps⟩ := forall_mem_children h
    rw [reach_group hkind, hasLetters]
    exact reach_prod_spec fun p hp ↦ ih p hp (hps p hp)
  | repetition b greedy p ih =>
    obtain ⟨-, hb, -, hp⟩ := forall_mem_children h
    obtain ⟨hword, hletters⟩ := ih (hp p (List.mem_singleton_self p))
    exact reach_repetition_spec hb hword hletters
  | literal c => exact oneOf_spec (List.cons_ne_nil c [])
  | range first last =>
    obtain ⟨-, hle, -⟩ := forall_mem_children h
    exact oneOf_spec (Interval.all_ne_nil (of_decide_eq_true hle))
  | shorthand tag => exact oneOf_spec (Alphabets.shorthand_ne_nil ha (forall_mem_children h).1)
  | bracket ps negated text ih =>
    obtain ⟨hlist, -, hne, hps⟩ := forall_mem_children h
    cases negated with
    | false =>
      rw [reach_bracket, hasLetters, Bool.false_or]
      exact reach_sum_spec (fun p hp ↦ ih p hp (hps p hp)) (by simpa [isInhabited] using hne)
    | true => exact oneOf_spec (by simpa [isListable] using hlist)
  | anyCharacter => exact oneOf_spec (Alphabets.isFull_iff.1 ha).1
  | reference id => cases (forall_mem_children h).1

end Pattern

end RegexWords

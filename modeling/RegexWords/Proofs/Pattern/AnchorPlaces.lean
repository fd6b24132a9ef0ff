import RegexWords.Proofs.Pattern.Matching
import RegexWords.Proofs.Pattern.Reach

namespace RegexWords

theorem eq_nil_of_mem_prod {Ls : List (Language Char)} (h : ∀ L ∈ Ls, ∀ w ∈ L, w = [])
    {w : List Char} (hw : w ∈ Ls.prod) : w = [] := by
  induction Ls generalizing w with
  | nil => exact hw
  | cons L Ls ih =>
    rw [List.forall_mem_cons] at h
    rw [List.prod_cons] at hw
    obtain ⟨u, hu, v, hv, rfl⟩ := Language.mem_mul.1 hw
    rw [h.1 u hu, ih h.2 hv, List.append_nil]

namespace Pattern

def isSparse (b : Bounds) (p : Pattern) : Bool :=
  b.most == some 1 || !p.hasLetters

mutual

/-- The anchors of a pattern hold where they stand. What stands before the pattern has no letters if
`front` is true, and what stands behind it has none if `back` is. -/
def anchorsFit (front back : Bool) : Pattern → Bool
  | .sequence ps => anchorsFitInOrder front back ps
  | .choice ps => anchorsFitInEach front back ps
  | .anchor x =>
    match x with
    | .textStart => front
    | .textEnd => back
    | .wordBoundary | .notWordBoundary => true
  | .group kind ps => !kind.isPlain || anchorsFitInOrder front back ps
  | .repetition b _ p =>
    b.most == some 0 || anchorsFit (front && isSparse b p) (back && isSparse b p) p
  | .bracket ps negated _ => negated || anchorsFitInEach front back ps
  | .literal _ | .range _ _ | .shorthand _ | .anyCharacter | .reference _ => true

def anchorsFitInOrder (front back : Bool) : List Pattern → Bool
  | [] => true
  | p :: ps =>
    anchorsFit front (back && !anyHasLetters ps) p &&
      anchorsFitInOrder (front && !p.hasLetters) back ps

def anchorsFitInEach (front back : Bool) : List Pattern → Bool
  | [] => true
  | p :: ps => anchorsFit front back p && anchorsFitInEach front back ps

end

variable {front back : Bool}

theorem anchorsFitInEach_eq_all (ps : List Pattern) :
    anchorsFitInEach front back ps = ps.all (anchorsFit front back) := by
  induction ps with
  | nil => rfl
  | cons p ps ih => rw [anchorsFitInEach, ih, List.all_cons]

variable [Compiler] {a : Alphabets}

theorem forall_eq_nil_of_parts {ps : List Pattern}
    (hps : ∀ p ∈ ps, p.hasLetters = false → ∀ w ∈ p.language a, w = [])
    (h : anyHasLetters ps = false) : ∀ L ∈ ps.map (language a), ∀ w ∈ L, w = [] := by
  rw [anyHasLetters_eq_any, List.any_eq_false] at h
  intro L hL w hw
  obtain ⟨p, hp, rfl⟩ := List.mem_map.1 hL
  exact hps p hp (Bool.eq_false_iff.2 (h p hp)) w hw

theorem eq_nil_of_not_hasLetters {p : Pattern} (h : p.hasLetters = false) :
    ∀ w ∈ p.language a, w = [] := by
  intro w hw
  induction p generalizing w with
  | sequence ps ih =>
    rw [language, languageWith_sequence] at hw
    exact eq_nil_of_mem_prod (forall_eq_nil_of_parts ih h) hw
  | choice ps ih =>
    rw [language, languageWith_choice] at hw
    obtain ⟨L, hL, hw⟩ := mem_sum_iff.1 hw
    exact forall_eq_nil_of_parts ih h L hL w hw
  | anchor x =>
    rw [language, languageWith] at hw
    split at hw
    · exact hw
    · cases hw
  | group kind ps ih =>
    rw [language, languageWith_group] at hw
    split at hw
    · exact eq_nil_of_mem_prod (forall_eq_nil_of_parts ih h) hw
    · cases hw
  | repetition b greedy p ih =>
    obtain ⟨n, hn, hw⟩ := hw
    rw [← List.prod_replicate] at hw
    rw [hasLetters, Bool.and_eq_false_iff] at h
    rcases h with hzero | hp
    · have hmost : b.most = some 0 := by simpa using hzero
      rw [Nat.le_zero.1 (hn.2 0 hmost)] at hw
      exact hw
    · exact eq_nil_of_mem_prod (fun L hL ↦ List.eq_of_mem_replicate hL ▸ ih hp) hw
  | bracket ps negated raw ih =>
    obtain ⟨rfl, hps⟩ := Bool.or_eq_false_iff.1 h
    rw [language, languageWith_bracket] at hw
    obtain ⟨L, hL, hw⟩ := mem_sum_iff.1 hw
    exact forall_eq_nil_of_parts ih hps L hL w hw
  | literal | range | shorthand | anyCharacter => cases h
  | reference => cases hw

end Pattern

/-- A relation leads over each word of a language, wherever the word stands in a text. It stands at
the front of the text if `front` is true, and at the back if `back` is. -/
def Admitted (front back : Bool) (L : Language Char) (M : List Char → ℕ → ℕ → Prop) : Prop :=
  ∀ u w v, w ∈ L → (front → u = []) → (back → v = []) →
    M (u ++ (w ++ v)) u.length (u ++ w).length

section Admitting

variable {front back : Bool} {L K : Language Char} {M N : List Char → ℕ → ℕ → Prop}

theorem admitted_takes (cs : List Char) :
    Admitted front back (oneOf cs) fun text ↦ Takes text cs := by
  rintro u _ v ⟨c, hc, rfl⟩ - -
  exact ⟨by simp, c, hc, by simp⟩

theorem Admitted.mono {f b : Bool} (h : Admitted f b L M) (hf : f → front) (hb : b → back) :
    Admitted front back L M :=
  fun u w v hw hu hv ↦ h u w v hw (fun hf' ↦ hu (hf hf')) fun hb' ↦ hv (hb hb')

/-- Words of one language before those of another. If one of the languages has no letters the other
words stand as near to the end of the text. -/
theorem Admitted.mul {f b : Bool} (hL : Admitted front b L M) (hK : Admitted f back K N)
    (hf : f → front ∧ ∀ w ∈ L, w = []) (hb : b → back ∧ ∀ w ∈ K, w = []) :
    Admitted front back (L * K) fun text i k ↦ ∃ j, M text i j ∧ N text j k := by
  intro u w v hw hu hv
  obtain ⟨x, hx, y, hy, rfl⟩ := Language.mem_mul.1 hw
  refine ⟨(u ++ x).length, ?_, ?_⟩
  · have hM := hL u x (y ++ v) hx hu fun hb' ↦ ?_
    · simpa using hM
    · obtain ⟨hback, hnil⟩ := hb hb'
      rw [hnil y hy, hv hback, List.append_nil]
  · have hN := hK (u ++ x) y v hy (fun hf' ↦ ?_) hv
    · simpa using hN
    · obtain ⟨hfront, hnil⟩ := hf hf'
      rw [hnil x hx, hu hfront, List.append_nil]

theorem admitted_one : Admitted front back 1 fun _ ↦ InOrder [] := by
  rintro u _ v rfl - -
  exact congrArg List.length (List.append_nil u).symm

theorem Admitted.pow {f b : Bool} (h : Admitted f b L M) (hf : f → front ∧ ∀ w ∈ L, w = [])
    (hb : b → back ∧ ∀ w ∈ L, w = []) (n : ℕ) :
    Admitted front back (L ^ n) fun text ↦ InOrder (List.replicate n (M text)) := by
  induction n generalizing front with
  | zero => exact admitted_one
  | succ n ih =>
    rw [pow_succ']
    have hfirst : Admitted front b L M := h.mono (fun hf' ↦ (hf hf').1) id
    refine hfirst.mul (ih fun hf' ↦ ⟨hf', (hf hf').2⟩) hf fun hb' ↦ ⟨(hb hb').1, fun w hw ↦ ?_⟩
    rw [← List.prod_replicate] at hw
    exact eq_nil_of_mem_prod (fun K hK ↦ List.eq_of_mem_replicate hK ▸ (hb hb').2) hw

theorem Admitted.pow_of_le_one (h : Admitted front back L M) {n : ℕ} (hn : n ≤ 1) :
    Admitted front back (L ^ n) fun text ↦ InOrder (List.replicate n (M text)) := by
  obtain rfl | rfl : n = 0 ∨ n = 1 := by omega
  · exact admitted_one
  · intro u w v hw hu hv
    rw [pow_one] at hw
    exact ⟨_, h u w v hw hu hv, rfl⟩

end Admitting

namespace Pattern

variable [Compiler] {a : Alphabets} {front back : Bool}

def IsMatched (a : Alphabets) (front back : Bool) (p : Pattern) : Prop :=
  Admitted front back (p.language a) fun text ↦ p.Matches a text

theorem admitted_inOrder {ps : List Pattern}
    (h : ∀ p ∈ ps, ∀ {f b}, p.anchorsFit f b → p.IsMatched a f b)
    (hfit : anchorsFitInOrder front back ps) :
    Admitted front back (ps.map (language a)).prod
      fun text ↦ InOrder (ps.map (Matches a text)) := by
  induction ps generalizing front with
  | nil => exact admitted_one
  | cons p ps ih =>
    rw [List.forall_mem_cons] at h
    rw [anchorsFitInOrder, Bool.and_eq_true] at hfit
    rw [List.map_cons, List.prod_cons]
    refine (h.1 hfit.1).mul (ih h.2 hfit.2) (fun hf ↦ ?_) (fun hb ↦ ?_)
    · rw [Bool.and_eq_true, Bool.not_eq_true'] at hf
      exact ⟨hf.1, eq_nil_of_not_hasLetters hf.2⟩
    · rw [Bool.and_eq_true, Bool.not_eq_true'] at hb
      have hnil := forall_eq_nil_of_parts (a := a) (fun p _ ↦ eq_nil_of_not_hasLetters) hb.2
      exact ⟨hb.1, fun w ↦ eq_nil_of_mem_prod hnil⟩

theorem admitted_inEach {ps : List Pattern}
    (h : ∀ p ∈ ps, ∀ {f b}, p.anchorsFit f b → p.IsMatched a f b)
    (hfit : anchorsFitInEach front back ps) :
    Admitted front back (ps.map (language a)).sum
      fun text i j ↦ ∃ p ∈ ps, p.Matches a text i j := by
  rw [anchorsFitInEach_eq_all, List.all_eq_true] at hfit
  intro u w v hw hu hv
  obtain ⟨L, hL, hw⟩ := mem_sum_iff.1 hw
  obtain ⟨p, hp, rfl⟩ := List.mem_map.1 hL
  exact ⟨p, hp, h p hp (hfit p hp) u w v hw hu hv⟩

theorem admitted_repetition {b : Bounds} {p : Pattern}
    (h : ∀ {f b}, p.anchorsFit f b → p.IsMatched a f b)
    (hfit : b.most == some 0 || p.anchorsFit (front && isSparse b p) (back && isSparse b p))
    {n : ℕ} (hn : b.Admits n) :
    Admitted front back (p.language a ^ n)
      fun text ↦ InOrder (List.replicate n (p.Matches a text)) := by
  rw [Bool.or_eq_true, beq_iff_eq] at hfit
  rcases hfit with hzero | hfit
  · rw [Nat.le_zero.1 (hn.2 0 hzero)]
    exact admitted_one
  have hp := h hfit
  cases hsparse : isSparse b p with
  | false =>
    rw [hsparse, Bool.and_false, Bool.and_false] at hp
    exact Admitted.pow hp (fun hf ↦ nomatch hf) (fun hb ↦ nomatch hb) n
  | true =>
    rw [hsparse, Bool.and_true, Bool.and_true] at hp
    rw [isSparse, Bool.or_eq_true, beq_iff_eq, Bool.not_eq_true'] at hsparse
    rcases hsparse with hone | hnil
    · exact Admitted.pow_of_le_one hp (hn.2 1 hone)
    · have hnil := eq_nil_of_not_hasLetters (a := a) hnil
      exact Admitted.pow hp (fun hf ↦ ⟨hf, hnil⟩) (fun hb ↦ ⟨hb, hnil⟩) n

/-- A pattern whose anchors fit is matched by each of its words wherever the word stands. -/
theorem isMatched_of_anchorsFit {p : Pattern} (h : p.anchorsFit front back) :
    p.IsMatched a front back := by
  induction p generalizing front back with
  | sequence ps ih =>
    rw [IsMatched, language, languageWith_sequence]
    simp only [matches_sequence]
    exact admitted_inOrder ih h
  | choice ps ih =>
    rw [IsMatched, language, languageWith_choice]
    exact fun u w v hw hu hv ↦ matches_choice_iff.2 (admitted_inEach ih h u w v hw hu hv)
  | anchor x =>
    intro u w v hw hu hv
    rw [language, languageWith] at hw
    cases x with
    | textStart =>
      cases hw
      rw [hu h]
      exact ⟨rfl, rfl⟩
    | textEnd =>
      cases hw
      rw [hv h]
      exact ⟨by simp, by simp [Anchor.Holds]⟩
    | wordBoundary | notWordBoundary => cases hw
  | group kind ps ih =>
    intro u w v hw hu hv
    rw [language, languageWith_group] at hw
    rw [anchorsFit, Bool.or_eq_true, Bool.not_eq_true'] at h
    split at hw
    · next hkind =>
      have hfit := h.resolve_left (by simp [hkind])
      exact matches_group_iff.2 ⟨hkind, admitted_inOrder ih hfit u w v hw hu hv⟩
    · cases hw
  | repetition b greedy p ih =>
    rintro u w v ⟨n, hn, hw⟩ hu hv
    rw [anchorsFit] at h
    exact ⟨n, hn, admitted_repetition ih h hn u w v hw hu hv⟩
  | bracket ps negated raw ih =>
    cases negated with
    | false =>
      rw [IsMatched, language, languageWith_bracket]
      exact fun u w v hw hu hv ↦ matches_bracket_iff.2 (admitted_inEach ih h u w v hw hu hv)
    | true => exact admitted_takes _
  | literal | range | shorthand | anyCharacter => exact admitted_takes _
  | reference => exact fun _ _ _ hw ↦ hw.elim

theorem matches_iff_mem_language {p : Pattern} (h : p.anchorsFit true true) {w : List Char} :
    p.Matches a w 0 w.length ↔ w ∈ p.language a := by
  constructor
  · intro hmatch
    obtain ⟨v, hv, tail, hw, hlength⟩ := spells_language p [] w w.length rfl hmatch
    have htail : tail = [] := by
      rw [hw, List.length_append, List.nil_append] at hlength
      exact List.length_eq_zero_iff.1 (by omega)
    rwa [hw, htail, List.append_nil]
  · intro hw
    simpa using isMatched_of_anchorsFit h [] w [] hw (fun _ ↦ rfl) (fun _ ↦ rfl)

end Pattern

end RegexWords

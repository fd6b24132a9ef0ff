import Mathlib.Computability.Language
import RegexWords.CharSet.Compiler
import RegexWords.Listing.Settings
import RegexWords.Pattern.Render
import RegexWords.Proofs.Listing.Intervals
import RegexWords.Proofs.Pattern.Nodes

namespace RegexWords

def Alphabets.named? (a : Alphabets) : Char → Option (List Char)
  | 'd' => some a.digit
  | 'w' => some a.word
  | 's' => some a.space
  | _ => none

def Anchor.isEnd : Anchor → Bool
  | .textStart | .textEnd => true
  | .wordBoundary | .notWordBoundary => false

def GroupKind.isPlain : GroupKind → Bool
  | .capturing | .plain => true
  | .lookahead | .negativeLookahead | .lookbehind | .negativeLookbehind => false

def Bounds.Admits (b : Bounds) (n : ℕ) : Prop :=
  b.least ≤ n ∧ ∀ m ∈ b.most, n ≤ m

def oneOf (cs : List Char) : Language Char := {w | ∃ c ∈ cs, w = [c]}

theorem mem_oneOf {cs : List Char} {w : List Char} : w ∈ oneOf cs ↔ ∃ c ∈ cs, w = [c] :=
  Iff.rfl

theorem mem_sum_iff {Ls : List (Language Char)} {w : List Char} :
    w ∈ Ls.sum ↔ ∃ L ∈ Ls, w ∈ L := by
  induction Ls with
  | nil => simp
  | cons L Ls ih => simp [Language.mem_add, ih]

theorem mem_prod_iff {Ls : List (Language Char)} {w : List Char} :
    w ∈ Ls.prod ↔ ∃ ws, List.Forall₂ (fun L v ↦ v ∈ L) Ls ws ∧ w = ws.flatten := by
  induction Ls generalizing w with
  | nil => simp
  | cons L Ls ih =>
    rw [List.prod_cons, Language.mem_mul]
    constructor
    · rintro ⟨u, hu, v, hv, rfl⟩
      obtain ⟨ws, hws, rfl⟩ := ih.1 hv
      exact ⟨u :: ws, .cons hu hws, rfl⟩
    · rintro ⟨_, hu | ⟨hu, hws⟩, rfl⟩
      exact ⟨_, hu, _, ih.2 ⟨_, hws, rfl⟩, rfl⟩

theorem mem_prod_of_forall {ps : List Pattern} {f g : Pattern → Language Char}
    (h : ∀ p ∈ ps, ∀ w ∈ f p, w ∈ g p) {w : List Char} (hw : w ∈ (ps.map f).prod) :
    w ∈ (ps.map g).prod := by
  induction ps generalizing w with
  | nil => exact hw
  | cons p ps ih =>
    rw [List.forall_mem_cons] at h
    rw [List.map_cons, List.prod_cons, Language.mem_mul] at hw ⊢
    obtain ⟨u, hu, v, hv, rfl⟩ := hw
    exact ⟨u, h.1 u hu, v, ih h.2 hv, rfl⟩

theorem mem_sum_of_forall {ps : List Pattern} {f g : Pattern → Language Char}
    (h : ∀ p ∈ ps, ∀ w ∈ f p, w ∈ g p) {w : List Char} (hw : w ∈ (ps.map f).sum) :
    w ∈ (ps.map g).sum := by
  rw [mem_sum_iff] at hw ⊢
  obtain ⟨L, hL, hw⟩ := hw
  obtain ⟨p, hp, rfl⟩ := List.mem_map.1 hL
  exact ⟨g p, List.mem_map_of_mem hp, h p hp w hw⟩

theorem mem_pow_of_forall {L M : Language Char} (h : ∀ w ∈ L, w ∈ M) {n : ℕ} {w : List Char}
    (hw : w ∈ L ^ n) : w ∈ M ^ n := by
  obtain ⟨ws, rfl, hlen, hws⟩ := Language.mem_pow.1 hw
  exact Language.mem_pow.2 ⟨ws, rfl, hlen, fun v hv ↦ h v (hws v hv)⟩

theorem toList_mem_prod {Ls : List (Language Char)} {w : String} :
    w.toList ∈ Ls.prod ↔
      ∃ ws : List String, List.Forall₂ (fun L v ↦ v.toList ∈ L) Ls ws ∧ w = String.join ws := by
  rw [mem_prod_iff]
  constructor
  · rintro ⟨ws, hws, hw⟩
    refine ⟨ws.map String.ofList, ?_, ?_⟩
    · rw [List.forall₂_map_right_iff]
      simpa only [String.toList_ofList] using hws
    · rw [← String.toList_inj, hw, String.toList_join, List.flatMap_map]
      simp [List.flatMap_def]
  · rintro ⟨ws, hws, rfl⟩
    refine ⟨ws.map String.toList, ?_, by rw [String.toList_join, List.flatMap_def]⟩
    rwa [List.forall₂_map_right_iff]

namespace Pattern

/-- Bounds of repetitions and ends of ranges are the right way round. -/
def isOrdered : Pattern → Bool
  | .repetition b _ _ => b.inOrder
  | .range first last => first ≤ last
  | _ => true

variable {counts counts' : Bounds → Pattern → ℕ → Prop}

/-- The repetitions of a pattern have all their old counts among the new ones. -/
def Widens (counts counts' : Bounds → Pattern → ℕ → Prop) (p : Pattern) : Prop :=
  ∀ b greedy q, .repetition b greedy q ∈ p.nodes → ∀ n, counts b q n → counts' b q n

theorem Widens.child {p c : Pattern} (h : Widens counts counts' p) (hc : c ∈ p.children) :
    Widens counts counts' c :=
  fun b greedy q hq ↦ h b greedy q (mem_nodes_of_mem_children hc hq)

end Pattern

variable [Compiler]

def Alphabets.accepted (a : Alphabets) (text : String) : List Char :=
  ((ClassText.matcher? text).map a.candidates.filter).getD []

def Alphabets.shorthand (a : Alphabets) (tag : Char) : List Char :=
  (a.named? tag).getD (a.accepted (Pattern.shorthand tag).text)

namespace Pattern

variable {a : Alphabets} {counts counts' : Bounds → Pattern → ℕ → Prop}

mutual

/-- The words of a pattern with `counts` to say how often a part may be repeated. -/
noncomputable def languageWith (a : Alphabets) (counts : Bounds → Pattern → ℕ → Prop) :
    Pattern → Language Char
  | .sequence ps => (languagesWith a counts ps).prod
  | .choice ps => (languagesWith a counts ps).sum
  | .anchor x => if x.isEnd then 1 else 0
  | .group kind ps => if kind.isPlain then (languagesWith a counts ps).prod else 0
  | .repetition b _ p => {w | ∃ n, counts b p n ∧ w ∈ languageWith a counts p ^ n}
  | .literal c => oneOf [c]
  | .range first last => oneOf (Interval.all first last)
  | .shorthand tag => oneOf (a.shorthand tag)
  | .bracket ps negated text =>
    if negated then oneOf (a.accepted text) else (languagesWith a counts ps).sum
  | .anyCharacter => oneOf a.anyCharacter
  | .reference _ => 0

noncomputable def languagesWith (a : Alphabets) (counts : Bounds → Pattern → ℕ → Prop) :
    List Pattern → List (Language Char)
  | [] => []
  | p :: ps => languageWith a counts p :: languagesWith a counts ps

end

/-- Neither of a kind that is not listed, nor a set without candidates. -/
def isListable (a : Alphabets) : Pattern → Bool
  | .anchor x => x.isEnd
  | .group kind _ => kind.isPlain
  | .shorthand tag => (a.named? tag).isSome || !(a.shorthand tag).isEmpty
  | .bracket _ negated text => !negated || !(a.accepted text).isEmpty
  | .reference _ => false
  | _ => true

/-- The words of a pattern, a part repeated any number of times within its bounds. Sets that are too
large to list stand for the characters of an alphabet, and anchors at the ends of the text for the
empty word. -/
noncomputable def language (a : Alphabets) (p : Pattern) : Language Char :=
  languageWith a (fun b _ n ↦ b.Admits n) p

theorem languagesWith_eq_map (ps : List Pattern) :
    languagesWith a counts ps = ps.map (languageWith a counts) := by
  induction ps with
  | nil => rfl
  | cons p ps ih => rw [languagesWith, ih, List.map_cons]

theorem languageWith_sequence (ps : List Pattern) :
    languageWith a counts (.sequence ps) = (ps.map (languageWith a counts)).prod := by
  rw [languageWith, languagesWith_eq_map]

theorem languageWith_choice (ps : List Pattern) :
    languageWith a counts (.choice ps) = (ps.map (languageWith a counts)).sum := by
  rw [languageWith, languagesWith_eq_map]

theorem languageWith_group (kind : GroupKind) (ps : List Pattern) :
    languageWith a counts (.group kind ps) =
      if kind.isPlain then (ps.map (languageWith a counts)).prod else 0 := by
  rw [languageWith, languagesWith_eq_map]

theorem languageWith_bracket (ps : List Pattern) (text : String) :
    languageWith a counts (.bracket ps false text) = (ps.map (languageWith a counts)).sum := by
  rw [languageWith, languagesWith_eq_map]
  rfl

theorem Widens.mem {p : Pattern} (h : Widens counts counts' p) :
    ∀ w ∈ languageWith a counts p, w ∈ languageWith a counts' p := by
  induction p with
  | sequence ps ih =>
    rw [languageWith_sequence, languageWith_sequence]
    exact fun w ↦ mem_prod_of_forall fun p hp ↦ ih p hp (h.child hp)
  | choice ps ih =>
    rw [languageWith_choice, languageWith_choice]
    exact fun w ↦ mem_sum_of_forall fun p hp ↦ ih p hp (h.child hp)
  | group kind ps ih =>
    rw [languageWith_group, languageWith_group]
    split
    · exact fun w ↦ mem_prod_of_forall fun p hp ↦ ih p hp (h.child hp)
    · exact fun w hw ↦ hw
  | repetition b greedy p ih =>
    rintro w ⟨n, hn, hw⟩
    refine ⟨n, h b greedy p ?_ n hn, ?_⟩
    · rw [nodes_eq_cons]
      exact List.mem_cons_self
    · exact mem_pow_of_forall (ih (h.child (List.mem_singleton_self p))) hw
  | bracket ps negated text ih =>
    cases negated with
    | false =>
      rw [languageWith_bracket, languageWith_bracket]
      exact fun w ↦ mem_sum_of_forall fun p hp ↦ ih p hp (h.child hp)
    | true => exact fun w hw ↦ hw
  | anchor | literal | range | shorthand | anyCharacter | reference => exact fun w hw ↦ hw

end Pattern

end RegexWords

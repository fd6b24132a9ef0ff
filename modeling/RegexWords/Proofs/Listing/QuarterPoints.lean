import Mathlib.Data.List.Dedup
import Mathlib.Data.List.ReduceOption
import Mathlib.Data.Nat.Dist
import RegexWords.CharSet.ClassText
import RegexWords.Proofs.Listing.CheckedNumbers
import RegexWords.Proofs.Listing.PatternItems
import RegexWords.Proofs.Listing.Runs

namespace RegexWords

namespace Interval

open Text

variable {first last c d : Char} {point : ℕ}

/-- The code point that stands for a point: itself, or for a surrogate the nearer one of the two
beside them, the lower one when both are as near. -/
def nearest (point : ℕ) : ℕ :=
  if point.isValidChar then point
  else if point - below ≤ above - point then below else above

/-- No other character is nearer to the point, and of two that are as near it is the lower one. -/
def IsNearest (point : ℕ) (c : Char) : Prop :=
  ∀ d : Char, d ≠ c → Nat.dist c.toNat point < Nat.dist d.toNat point ∨
    Nat.dist c.toNat point = Nat.dist d.toNat point ∧ c < d

theorem nearest_cases (point : ℕ) :
    (point.isValidChar ∧ nearest point = point) ∨
      ¬point.isValidChar ∧ (point - below ≤ above - point ∧ nearest point = below ∨
        above - point < point - below ∧ nearest point = above) := by
  by_cases hvalid : point.isValidChar
  · exact .inl ⟨hvalid, if_pos hvalid⟩
  · rw [nearest, if_neg hvalid]
    by_cases hside : point - below ≤ above - point
    · exact .inr ⟨hvalid, .inl ⟨hside, if_pos hside⟩⟩
    · exact .inr ⟨hvalid, .inr ⟨Nat.lt_of_not_le hside, if_neg hside⟩⟩

theorem isNearest_of_toNat_eq (hpoint : point ≤ d.toNat) (h : c.toNat = nearest point) :
    IsNearest point c := by
  intro e he
  have hne : e.toNat ≠ c.toNat := fun hec ↦ he (Char.toNat_inj.1 hec)
  have hd : d.toNat.isValidChar := d.valid
  have hvalid : e.toNat.isValidChar := e.valid
  have hcases := nearest_cases point
  rw [← h] at hcases
  change _ ∨ _ ∧ c.toNat < e.toNat
  simp only [Nat.dist, Nat.isValidChar, below, above] at hcases hd hvalid ⊢
  omega

theorem IsNearest.unique (hc : IsNearest point c) (hd : IsNearest point d) : c = d := by
  by_contra hne
  have h := hc d (Ne.symm hne)
  have h' := hd c hne
  change _ ∨ _ ∧ c.toNat < d.toNat at h
  change _ ∨ _ ∧ d.toNat < c.toNat at h'
  omega

theorem nearest_toNat (c : Char) : nearest c.toNat = c.toNat :=
  if_pos c.valid

theorem reaches_of_surrogate (hpoint : below < point ∧ point < above) (hfirst : first.toNat ≤ point)
    (hlast : point ≤ last.toNat) : first.toNat ≤ below ∧ above ≤ last.toNat := by
  have hf : first.toNat.isValidChar := first.valid
  have hl : last.toNat.isValidChar := last.valid
  simp only [Nat.isValidChar, below, above] at hf hl hpoint ⊢
  omega

theorem isValidChar_nearest (point : ℕ) : (nearest point).isValidChar := by
  obtain ⟨hvalid, h⟩ | ⟨-, ⟨-, h⟩ | ⟨-, h⟩⟩ := nearest_cases point
  · rwa [h]
  · rw [h]
    exact '\ud7ff'.valid
  · rw [h]
    exact '\ue000'.valid

theorem exists_scalar?_nearest (point : ℕ) :
    ∃ c, scalar? (nearest point) = some c ∧ c.toNat = nearest point := by
  have h : scalar? (nearest point) = some (Char.ofNat (nearest point)) :=
    if_pos (isValidChar_nearest point)
  exact ⟨_, h, toNat_of_scalar? h⟩

theorem beside?_eq {first last : ℕ} (hinvalid : ¬point.isValidChar) (hfirst : first ≤ below)
    (hlast : above ≤ last) : beside? first last point = some (nearest point) := by
  rw [beside?, nearest, if_neg hinvalid]
  by_cases hside : point - below ≤ above - point
  · rw [if_pos ⟨hfirst, .inr hside⟩, if_pos hside]
  · have hother : ¬(first ≤ below ∧ (last < above ∨ point - below ≤ above - point)) := by omega
    rw [if_neg hother, if_pos hlast, if_neg hside]

theorem exists_nearest? (hfirst : first.toNat ≤ point) (hlast : point ≤ last.toNat) :
    ∃ c, nearest? first.toNat last.toNat point = some c ∧ c.toNat = nearest point := by
  cases hs : scalar? point with
  | some c =>
    have hc : c.toNat = point := toNat_of_scalar? hs
    refine ⟨c, by rw [nearest?, hs], ?_⟩
    rw [← hc, nearest_toNat]
  | none =>
    have hpoint := surrogate_of_scalar?_eq_none hs hlast
    obtain ⟨hbelow, habove⟩ := reaches_of_surrogate hpoint hfirst hlast
    rw [nearest?, hs, beside?_eq (not_isValidChar_of_scalar?_eq_none hs) hbelow habove]
    exact exists_scalar?_nearest point

/-- The points of two characters are far enough apart that no move brings them together. -/
theorem nearest_lt_nearest (h : first < last) :
    nearest ((3 * first.toNat + last.toNat + 2) / 4) <
      nearest ((first.toNat + 3 * last.toNat + 2) / 4) := by
  have hlt : first.toNat < last.toNat := h
  have hf : first.toNat.isValidChar := first.valid
  have hl : last.toNat.isValidChar := last.valid
  have hlow := nearest_cases ((3 * first.toNat + last.toNat + 2) / 4)
  have hhigh := nearest_cases ((first.toNat + 3 * last.toNat + 2) / 4)
  simp only [Nat.isValidChar, below, above] at hf hl hlow hhigh
  omega

theorem exists_samples_eq (h : first ≤ last) :
    ∃ c d : Char, samples first last = dedup [c, d] ∧
      c.toNat = nearest ((3 * first.toNat + last.toNat + 2) / 4) ∧
      d.toNat = nearest ((first.toNat + 3 * last.toNat + 2) / 4) := by
  have hpoint {point : ℕ} (hp : point ∈ quarterPoints first.toNat last.toNat) :
      ∃ c, nearest? first.toNat last.toNat point = some c ∧ c.toNat = nearest point := by
    obtain ⟨hfirst, hlast⟩ := quarterPoints_between h hp
    exact exists_nearest? hfirst hlast
  obtain ⟨c, hc, hlow⟩ := hpoint List.mem_cons_self
  obtain ⟨d, hd, hhigh⟩ := hpoint (List.mem_cons_of_mem _ List.mem_cons_self)
  refine ⟨c, d, ?_, hlow, hhigh⟩
  rw [samples, quarterPoints, List.filterMap_cons_some hc, List.filterMap_cons_some hd,
    List.filterMap_nil]

theorem samples_self (c : Char) : samples c c = [c] := by
  obtain ⟨d, e, hsamples, hd, he⟩ := exists_samples_eq (Char.le_refl c)
  have hpoint : (3 * c.toNat + c.toNat + 2) / 4 = c.toNat := by omega
  have hpoint' : (c.toNat + 3 * c.toNat + 2) / 4 = c.toNat := by omega
  rw [hpoint, nearest_toNat, Char.toNat_inj] at hd
  rw [hpoint', nearest_toNat, Char.toNat_inj] at he
  rw [hsamples, hd, he]
  simp [dedup]

theorem exists_samples_eq_of_lt (h : first < last) :
    ∃ c d : Char, samples first last = [c, d] ∧ c < d ∧
      c.toNat = nearest ((3 * first.toNat + last.toNat + 2) / 4) ∧
      d.toNat = nearest ((first.toNat + 3 * last.toNat + 2) / 4) := by
  obtain ⟨c, d, hsamples, hc, hd⟩ := exists_samples_eq (Nat.le_of_lt h)
  have hlt : c < d := by
    change c.toNat < d.toNat
    rw [hc, hd]
    exact nearest_lt_nearest h
  refine ⟨c, d, ?_, hlt, hc, hd⟩
  rw [hsamples, dedup, if_neg (Char.ne_of_lt hlt)]
  rfl

theorem map_toNat_samples (h : first ≤ last) :
    (samples first last).map Char.toNat =
      ((quarterPoints first.toNat last.toNat).map nearest).dedup := by
  obtain ⟨c, d, hsamples, hc, hd⟩ := exists_samples_eq h
  rw [hsamples, quarterPoints, List.map_cons, List.map_cons, List.map_nil, ← hc, ← hd, dedup]
  by_cases hcd : c = d
  · simp [hcd, dedup]
  · have hne : c.toNat ≠ d.toNat := fun h ↦ hcd (Char.toNat_inj.1 h)
    simp [hcd, hne, dedup]

theorem mem_samples_iff (h : first ≤ last) :
    c ∈ samples first last ↔
      ∃ point ∈ quarterPoints first.toNat last.toNat, IsNearest point c := by
  have hmem (d : Char) : d ∈ samples first last ↔
      ∃ point ∈ quarterPoints first.toNat last.toNat, nearest point = d.toNat := by
    have hinjective : Function.Injective Char.toNat := fun _ _ ↦ Char.toNat_inj.1
    rw [← List.mem_map_of_injective hinjective, map_toNat_samples h, List.mem_dedup, List.mem_map]
  have hnearest {point : ℕ} (hpoint : point ∈ quarterPoints first.toNat last.toNat) {d : Char}
      (hd : nearest point = d.toNat) : IsNearest point d :=
    isNearest_of_toNat_eq (quarterPoints_between h hpoint).2 hd.symm
  rw [hmem]
  constructor
  · rintro ⟨point, hpoint, hc⟩
    exact ⟨point, hpoint, hnearest hpoint hc⟩
  · rintro ⟨point, hpoint, hc⟩
    obtain ⟨d, -, hd⟩ := exists_scalar?_nearest point
    refine ⟨point, hpoint, ?_⟩
    rw [hc.unique (hnearest hpoint hd.symm), hd]

def below32 : BitVec 32 := 0xd7ff
def above32 : BitVec 32 := 0xe000

def quarterPoint32? (near far : BitVec 32) : Option (BitVec 32) := do
  let sum ← Checked.add? (← Checked.mul? 3#32 near) far
  let rounded ← Checked.add? sum 2#32
  return rounded / 4#32

/-- The code point that stands for a surrogate, of the two beside them that are reached. Differences
are only taken where both are. -/
def beside32? (first last point : BitVec 32) : Option (Option (BitVec 32)) :=
  if first ≤ below32 ∧ above32 ≤ last then do
    let down ← Checked.sub? point below32
    let up ← Checked.sub? above32 point
    return some (if down ≤ up then below32 else above32)
  else if above32 ≤ last then some (some above32)
  else if first ≤ below32 then some (some below32)
  else some none

def nearest32? (first last point : BitVec 32) : Option (Option Char) :=
  match scalar? point.toNat with
  | some c => some (some c)
  | none => (beside32? first last point).map fun side ↦ side.bind fun n ↦ scalar? n.toNat

/-- The examples of a range, where no number on the way to them needs more than 32 bits or is below
zero. -/
def samples32? (first last : Char) : Option (List Char) := do
  let low ← quarterPoint32? first.val.toBitVec last.val.toBitVec
  let high ← quarterPoint32? last.val.toBitVec first.val.toBitVec
  let picks ← [low, high].mapM (nearest32? first.val.toBitVec last.val.toBitVec)
  return dedup picks.reduceOption

theorem toNat_lt (c : Char) : c.toNat < 0x110000 := by
  have hc : c.toNat.isValidChar := c.valid
  unfold Nat.isValidChar at hc
  omega

theorem exists_quarterPoint32? {near far : BitVec 32} (hnear : near.toNat < 0x110000)
    (hfar : far.toNat < 0x110000) :
    ∃ p, quarterPoint32? near far = some p ∧ p.toNat = (3 * near.toNat + far.toNat + 2) / 4 := by
  have htimes : (3#32).toNat * near.toNat < 2 ^ 32 := by
    change 3 * near.toNat < 2 ^ 32
    omega
  obtain ⟨triple, htriple, ht⟩ := Checked.exists_mul? htimes
  change triple.toNat = 3 * near.toNat at ht
  have hplus : triple.toNat + far.toNat < 2 ^ 32 := by omega
  obtain ⟨sum, hsum, hs⟩ := Checked.exists_add? hplus
  have hround : sum.toNat + (2#32).toNat < 2 ^ 32 := by
    change sum.toNat + 2 < 2 ^ 32
    omega
  obtain ⟨rounded, hrounded, hr⟩ := Checked.exists_add? hround
  refine ⟨rounded / 4#32, by simp [quarterPoint32?, htriple, hsum, hrounded], ?_⟩
  rw [BitVec.toNat_udiv, hr, hs, ht]
  rfl

theorem exists_beside32? {first last point : BitVec 32} (hinvalid : ¬point.toNat.isValidChar)
    (hpoint : below < point.toNat ∧ point.toNat < above) (hfirst : first.toNat ≤ below)
    (hlast : above ≤ last.toNat) :
    ∃ side, beside32? first last point = some (some side) ∧ side.toNat = nearest point.toNat := by
  obtain ⟨down, hdown, hd⟩ := Checked.exists_sub? (a := point) (b := below32) hpoint.1.le
  obtain ⟨up, hup, hu⟩ := Checked.exists_sub? (a := above32) (b := point) hpoint.2.le
  have hreached : first ≤ below32 ∧ above32 ≤ last := ⟨hfirst, hlast⟩
  have hnearer : down ≤ up ↔ point.toNat - below ≤ above - point.toNat := by
    rw [BitVec.le_def, hd, hu]
    rfl
  rw [beside32?, if_pos hreached, hdown, hup, nearest, if_neg hinvalid]
  refine ⟨if down ≤ up then below32 else above32, rfl, ?_⟩
  by_cases hside : down ≤ up
  · rw [if_pos hside, if_pos (hnearer.1 hside)]
    rfl
  · rw [if_neg hside, if_neg (hside ∘ hnearer.2)]
    rfl

theorem nearest32?_eq {point : BitVec 32} (hfirst : first.toNat ≤ point.toNat)
    (hlast : point.toNat ≤ last.toNat) :
    nearest32? first.val.toBitVec last.val.toBitVec point =
      some (nearest? first.toNat last.toNat point.toNat) := by
  cases hs : scalar? point.toNat with
  | some c => rw [nearest32?, nearest?, hs]
  | none =>
    have hpoint := surrogate_of_scalar?_eq_none hs hlast
    have hinvalid := not_isValidChar_of_scalar?_eq_none hs
    obtain ⟨hbelow, habove⟩ := reaches_of_surrogate hpoint hfirst hlast
    obtain ⟨side, hside, hnearest⟩ := exists_beside32? hinvalid hpoint hbelow habove
    rw [nearest32?, nearest?, hs, hside, beside?_eq hinvalid hbelow habove, Option.map_some,
      Option.bind_some, hnearest]
    rfl

theorem samples32?_eq (h : first ≤ last) : samples32? first last = some (samples first last) := by
  obtain ⟨low, hlow, hl⟩ := exists_quarterPoint32? (toNat_lt first) (toNat_lt last)
  obtain ⟨high, hhigh, hh⟩ := exists_quarterPoint32? (toNat_lt last) (toNat_lt first)
  have hpoints : quarterPoints first.toNat last.toNat = [low.toNat, high.toNat] := by
    rw [hl, hh, Nat.add_comm (3 * last.val.toBitVec.toNat)]
    rfl
  have hpick {point : BitVec 32} (hp : point.toNat ∈ quarterPoints first.toNat last.toNat) :
      nearest32? first.val.toBitVec last.val.toBitVec point =
        some (nearest? first.toNat last.toNat point.toNat) := by
    obtain ⟨hfirst, hlast⟩ := quarterPoints_between h hp
    exact nearest32?_eq hfirst hlast
  have hpicklow := hpick (hpoints ▸ List.mem_cons_self)
  have hpickhigh := hpick (hpoints ▸ List.mem_cons_of_mem _ List.mem_cons_self)
  rw [samples, hpoints]
  simp [samples32?, hlow, hhigh, hpicklow, hpickhigh, List.filterMap_cons, List.reduceOption]

end Interval

namespace Listing

/-- The examples of a range are the characters nearest to its two quarter points, those beside the
surrogates where a point is one of them. They are in the range and in order, two of them unless the
range has a single character. On the way to them no number has more than 32 bits. -/
theorem exists_lists_range_examples [Compiler] {s : Settings} {first last : Char}
    (hs : s.mode = .examples) (h : first ≤ last) :
    ∃ cs : List Char,
      (∀ w, Lists proceed (ofPattern s (.range first last), w) (letters cs)) ∧
      cs.map Char.toNat =
        ([(3 * first.toNat + last.toNat + 2) / 4, (first.toNat + 3 * last.toNat + 2) / 4].map
          Interval.nearest).dedup ∧
      (∀ c, c ∈ cs ↔ ∃ point ∈ Interval.quarterPoints first.toNat last.toNat,
        Interval.IsNearest point c) ∧
      Interval.samples32? first last = some cs ∧
      (∀ c ∈ cs, first ≤ c ∧ c ≤ last) ∧
      cs.Pairwise (· < ·) ∧
      (first = last → cs.length = 1) ∧
      (first < last → cs.length = 2) := by
  have hlists (w : Workspace) :
      Lists proceed (ofPattern s (.range first last), w)
        (letters (Interval.samples first last)) := by
    have hitems : items s (.range first last) = letters (Interval.samples first last) := by
      rw [items, rangeMembers, hs]
    apply gives_proceed_iff.2
    rw [← hitems]
    exact lists_ofPattern s _
  refine ⟨Interval.samples first last, hlists, Interval.map_toNat_samples h,
    fun _ ↦ Interval.mem_samples_iff h, Interval.samples32?_eq h,
    fun c hc ↦ Interval.between_of_mem_samples h hc, ?_, ?_, ?_⟩
  · have hcases : first = last ∨ first < last :=
      (Nat.eq_or_lt_of_le h).imp_left Char.toNat_inj.1
    obtain rfl | hlt := hcases
    · rw [Interval.samples_self]
      exact List.pairwise_singleton _ _
    · obtain ⟨c, d, hsamples, hcd, -, -⟩ := Interval.exists_samples_eq_of_lt hlt
      rw [hsamples]
      simpa using hcd
  · rintro rfl
    rw [Interval.samples_self]
    rfl
  · intro hlt
    obtain ⟨c, d, hsamples, -, -, -⟩ := Interval.exists_samples_eq_of_lt hlt
    rw [hsamples]
    rfl

/-- Both points are surrogates, and each moves to its own side. -/
theorem exists_lists_range_examples_surrogates :
    (Settings.ofMode .examples).mode = .examples ∧ '\ud700' ≤ '\ue0a0' ∧
    ∃ cs : List Char,
      (∀ w, Lists proceed (ofPattern (.ofMode .examples) (.range '\ud700' '\ue0a0'), w)
        (letters cs)) ∧
      cs = ['\ud7ff', '\ue000'] := by
  have hle : '\ud700' ≤ '\ue0a0' := by decide
  obtain ⟨cs, hlists, htoNat, -⟩ :=
    exists_lists_range_examples (s := .ofMode .examples) rfl hle
  refine ⟨rfl, hle, cs, hlists, ?_⟩
  apply List.map_injective_iff.2 (fun _ _ h ↦ Char.toNat_inj.1 h)
  rw [htoNat]
  decide

end Listing

end RegexWords

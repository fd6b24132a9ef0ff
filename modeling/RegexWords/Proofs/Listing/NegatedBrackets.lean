import RegexWords.Proofs.CharSet.CommonText
import RegexWords.Proofs.Listing.Evaluation
import RegexWords.Proofs.Pattern.RoundTrip

namespace RegexWords

/-- The candidates that no member of a bracket expression names. -/
def Alphabets.unnamed (a : Alphabets) (members : List Pattern) : List Char :=
  a.candidates.filter fun c ↦ !members.any (·.names c)

namespace Listing

def unnamedItems (a : Alphabets) (members : List Pattern) (text : String) : List Item :=
  if a.unnamed members = [] then [.error (.unsatisfiable a.candidates text)]
  else letters (a.unnamed members)

section Sampling

variable [Compiler]

theorem sampled_of_matcher? {text : String} {m : Matcher} (h : ClassText.matcher? text = some m)
    (candidates : List Char) :
    sampled text candidates =
      if candidates.filter m = [] then [.error (.unsatisfiable candidates text)]
      else letters (candidates.filter m) := by
  rw [sampled, h, Option.map_some]
  cases candidates.filter m <;> rfl

theorem sampled_eq_unnamedItems {a : Alphabets} {ms : List Pattern} {text : String} {m : Matcher}
    (h : ClassText.matcher? text = some m) (hm : ∀ c, m c = !ms.any (·.names c)) :
    sampled text a.candidates = unnamedItems a ms text := by
  have hfilter : a.candidates.filter m = a.unnamed ms := List.filter_congr fun c _ ↦ hm c
  rw [sampled_of_matcher? h, hfilter, unnamedItems]

theorem exists_run_negated_iff (s : Settings) (ms : List Pattern) (text : String) (w : Workspace)
    (rs : List (Option Item)) :
    (∃ t, Run advance (ofPattern s (.bracket ms true text), w) rs t) ↔
      rs = (List.range rs.length).map fun k ↦ (sampled text s.alphabets.candidates)[k]? := by
  have hitems : upToError (items s (.bracket ms true text)) = sampled text s.alphabets.candidates :=
    upToError_sampled _ _
  rw [exists_run_iff (lists_ofPattern s _), hitems]

end Sampling

/-- For a negated bracket expression with a common text the candidates are listed that its members
do not name. -/
theorem exists_run_iff_unnamedItems (s : Settings) {text raw : String} {ms : List Pattern}
    (h : Pattern.parse text = .ok (.bracket ms true raw)) (hms : ∀ m ∈ ms, m.isExplicit)
    (htext : ClassText.isCommon text.toList.tail) (w : Workspace) (rs : List (Option Item)) :
    (∃ t, Run advance (ofPattern s (.bracket ms true raw), w) rs t) ↔
      rs = (List.range rs.length).map fun k ↦ (unnamedItems s.alphabets ms raw)[k]? := by
  obtain ⟨-, m, hm, hnames⟩ := ClassText.exists_matcher?_of_parse h hms htext
  rw [exists_run_negated_iff, sampled_eq_unnamedItems hm hnames]

def escapedMembers : List Pattern :=
  [.literal '-', .literal '7', .literal '.', .range 'A' 'G']

theorem exists_run_iff_unnamedItems_escaped :
    Pattern.parse "[^-7\\.A-G]" =
      .ok (.bracket escapedMembers true "[^-7\\.A-G]") ∧
    (∀ m ∈ escapedMembers, m.isExplicit) ∧
    ClassText.isCommon "[^-7\\.A-G]".toList.tail ∧
    ∃ t, Run advance
      (ofPattern (.ofMode .exhaustive) (.bracket escapedMembers true "[^-7\\.A-G]"), .empty)
      [some (.ok "$"), some (.ok " "), some (.ok "\ufffd"), none] t := by
  have hparse : Pattern.parse "[^-7\\.A-G]" =
      .ok (.bracket escapedMembers true "[^-7\\.A-G]") :=
    Pattern.parse_of_reads ⟨'[', "^-7\\.A-G]".toList, rfl, by cbv⟩
  have hms : ∀ m ∈ escapedMembers, m.isExplicit := by decide
  have htext : ClassText.isCommon "[^-7\\.A-G]".toList.tail := by decide
  refine ⟨hparse, hms, htext, ?_⟩
  apply (exists_run_iff_unnamedItems (.ofMode .exhaustive) hparse hms htext .empty _).2
  decide

/-- Two ampersands are members of the bracket expression, and in the class text they stand for an
intersection. -/
theorem read?_ampersands :
    ClassText.read? (ClassText.framed "[^F&&7]") =
      some (.ofSet (.complement (.inter (.union .empty (.singleton 'F'))
        (.union .empty (.singleton '7'))))) := by
  have hread : CharSet.read? ['^', 'F', '&', '&', '7', ']'] =
      some (.complement (.inter (.union .empty (.singleton 'F'))
        (.union .empty (.singleton '7'))), []) := by
    have hstart : OpenSet.ofText ['^', 'F', '&', '&', '7', ']'] =
        (⟨true, none, .empty⟩, ['F', '&', '&', '7', ']']) := rfl
    have hF : OpenSet.readMember 'F' ['&', '&', '7', ']'] =
        some (.singleton 'F', ['&', '&', '7', ']']) := rfl
    have h7 : OpenSet.readMember '7' [']'] = some (.singleton '7', [']']) := rfl
    rw [CharSet.read?, hstart, ClassText.read_member (by decide) (by decide) (by decide) hF,
      OpenSet.read, ClassText.read_member (by decide) (by decide) (by decide) h7,
      ClassText.read_close]
    rfl
  exact ClassText.read?_of_charSet rfl (by decide) hread

def ampersandMembers : List Pattern :=
  [.literal 'F', .literal '&', .literal '&', .literal '7']

/-- The members name `F` and `7`, and both are listed. -/
theorem run_bracket_ampersands :
    Pattern.parse "[^F&&7]" = .ok (.bracket ampersandMembers true "[^F&&7]") ∧
    (∀ m ∈ ampersandMembers, m.isExplicit) ∧
    (∃ t, Run advance
      (ofPattern (.ofMode .exhaustive) (.bracket ampersandMembers true "[^F&&7]"), .empty)
      [some (.ok "F"), some (.ok "7"), some (.ok "."), some (.ok "$"), some (.ok " "),
        some (.ok "\ufffd"), none] t) ∧
    ¬∀ rs, (∃ t, Run advance
      (ofPattern (.ofMode .exhaustive) (.bracket ampersandMembers true "[^F&&7]"), .empty) rs t) ↔
        rs = (List.range rs.length).map fun k ↦
          (unnamedItems Alphabets.exhaustive ampersandMembers "[^F&&7]")[k]? := by
  have hrun : ∃ t, Run advance
      (ofPattern (.ofMode .exhaustive) (.bracket ampersandMembers true "[^F&&7]"), .empty)
      [some (.ok "F"), some (.ok "7"), some (.ok "."), some (.ok "$"), some (.ok " "),
        some (.ok "\ufffd"), none] t := by
    rw [exists_run_negated_iff, sampled_of_matcher? (ClassText.matcher?_of_read? read?_ampersands)]
    decide
  refine ⟨?_, by decide, hrun, ?_⟩
  · exact Pattern.parse_of_reads ⟨'[', "^F&&7]".toList, rfl, by cbv⟩
  · intro h
    exact absurd ((h _).1 hrun) (by decide)

end Listing

end RegexWords

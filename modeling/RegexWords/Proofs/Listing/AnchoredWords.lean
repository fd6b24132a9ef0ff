import RegexWords.CharSet.ClassText
import RegexWords.Proofs.Listing.Soundness
import RegexWords.Proofs.Pattern.AnchorPlaces
import RegexWords.Proofs.Pattern.ParsedForm

namespace RegexWords

namespace Pattern

variable {p : Pattern}

theorem isOrdered_of_isMember (h : p.isMember) : ∀ q ∈ p.nodes, q.isOrdered := by
  cases p with
  | literal | shorthand => exact List.forall_mem_singleton.2 rfl
  | range => exact List.forall_mem_singleton.2 h
  | _ => cases h

theorem Canonical.isOrdered {role : Role} (h : Canonical role p) : ∀ q ∈ p.nodes, q.isOrdered := by
  induction h with
  | anchor | anyCharacter | literal | shorthand | reference => exact List.forall_mem_singleton.2 rfl
  | bracket hparse =>
    have hmembers := (bracket_text hparse).1
    exact forall_mem_nodes.2 ⟨rfl, fun m hm ↦ isOrdered_of_isMember (hmembers m hm)⟩
  | group _ ih => exact forall_mem_nodes.2 ⟨rfl, ih⟩
  | groupOfChoice _ ih => exact forall_mem_nodes.2 ⟨rfl, List.forall_mem_singleton.2 ih⟩
  | repetition _ horder _ _ ih =>
    exact forall_mem_nodes.2 ⟨horder, List.forall_mem_singleton.2 ih⟩
  | single _ ih => exact ih
  | sequence _ _ ih => exact forall_mem_nodes.2 ⟨rfl, ih⟩
  | branch _ ih => exact ih
  | choice _ _ ih => exact forall_mem_nodes.2 ⟨rfl, ih⟩

end Pattern

namespace Listing

open Pattern

/-- A pattern that is read and has its anchors where they hold matches every word that is taken,
from its front to its end. -/
theorem matches_of_mem_take [Compiler] {s : Settings} {text : String} {p : Pattern}
    (h : parse text = .ok p) (hfit : p.anchorsFit true true) (fuel n : ℕ) (w : Workspace) :
    ∀ word ∈ ((ofPattern s p).take fuel n w).1.1,
      p.Matches s.alphabets word.toList 0 word.toList.length := by
  intro word hword
  have hordered := (readFrom_of_read (parse_eq_ok_iff.1 h)).1.isOrdered
  have hfirst := (take_isPrefix fuel n (lists_ofPattern s p) w).subset hword
  exact (matches_iff_mem_language hfit).2
    (wordsIn_items hordered word (mem_of_mem_firstWords hfirst))

def frontAnchors : Pattern :=
  .sequence [.group .capturing [.choice [.anchor .textStart,
      .repetition ⟨1, none⟩ true (.group .plain [.anchor .textStart])]],
    .literal 'a', .anchor .textEnd]

theorem matches_of_mem_take_frontAnchors :
    parse "(^|(?:^)+)a$" = .ok frontAnchors ∧ frontAnchors.anchorsFit true true ∧
    "a" ∈ ((ofPattern (.ofMode .exhaustive) frontAnchors).take 100 1 .empty).1.1 ∧
    frontAnchors.Matches .exhaustive "a".toList 0 "a".toList.length := by
  have hparse : parse "(^|(?:^)+)a$" = .ok frontAnchors := by cbv
  have hfit : frontAnchors.anchorsFit true true := by decide
  have htaken : "a" ∈ ((ofPattern (.ofMode .exhaustive) frontAnchors).take 100 1 .empty).1.1 := by
    decide
  exact ⟨hparse, hfit, htaken, matches_of_mem_take hparse hfit 100 1 .empty "a" htaken⟩

def innerAnchor : Pattern := .sequence [.literal 'a', .anchor .textStart, .literal 'b']

/-- A word is taken although the text never has its front between its letters. -/
theorem mem_take_innerAnchor :
    parse "a^b" = .ok innerAnchor ∧
    "ab" ∈ ((ofPattern (.ofMode .exhaustive) innerAnchor).take 100 1 .empty).1.1 ∧
    ¬innerAnchor.Matches .exhaustive "ab".toList 0 "ab".toList.length := by
  refine ⟨by cbv, by decide, ?_⟩
  simp [innerAnchor, matches_sequence, InOrder, Matches, Takes, Anchor.Holds]

end Listing

end RegexWords

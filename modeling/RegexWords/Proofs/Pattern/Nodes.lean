import Mathlib.Data.List.Basic
import RegexWords.Pattern.Basic

namespace RegexWords.Pattern

@[induction_eliminator]
theorem induction {motive : Pattern → Prop}
    (sequence : ∀ items, (∀ p ∈ items, motive p) → motive (.sequence items))
    (choice : ∀ branches, (∀ p ∈ branches, motive p) → motive (.choice branches))
    (anchor : ∀ a, motive (.anchor a))
    (group : ∀ kind body, (∀ p ∈ body, motive p) → motive (.group kind body))
    (repetition : ∀ bounds greedy body, motive body → motive (.repetition bounds greedy body))
    (literal : ∀ c, motive (.literal c))
    (range : ∀ first last, motive (.range first last))
    (shorthand : ∀ tag, motive (.shorthand tag))
    (bracket : ∀ members negated text, (∀ p ∈ members, motive p) →
      motive (.bracket members negated text))
    (anyCharacter : motive .anyCharacter)
    (reference : ∀ id, motive (.reference id)) (p : Pattern) : motive p :=
  @Pattern.rec motive (fun ps ↦ ∀ p ∈ ps, motive p) sequence choice anchor group repetition
    literal range shorthand bracket anyCharacter reference (by simp)
    (fun p ps hp hps ↦ by simpa using ⟨hp, hps⟩) p

def children : Pattern → List Pattern
  | .sequence ps | .choice ps | .group _ ps | .bracket ps _ _ => ps
  | .repetition _ _ p => [p]
  | _ => []

/-- To show something of all patterns it suffices to show it where it holds of the parts. -/
theorem children_induction {motive : Pattern → Prop}
    (h : ∀ p, (∀ c ∈ p.children, motive c) → motive p) (p : Pattern) : motive p := by
  induction p with
  | sequence ps ih | choice ps ih => exact h _ ih
  | group kind ps ih => exact h _ ih
  | repetition b greedy p ih => exact h _ (List.forall_mem_singleton.2 ih)
  | bracket ps negated text ih => exact h _ ih
  | anchor | literal | range | shorthand | anyCharacter | reference =>
    exact h _ fun _ hc ↦ nomatch hc

mutual

def nodes : Pattern → List Pattern
  | .sequence ps => .sequence ps :: nodesOfAll ps
  | .choice ps => .choice ps :: nodesOfAll ps
  | .group kind body => .group kind body :: nodesOfAll body
  | .repetition bounds greedy p => .repetition bounds greedy p :: nodes p
  | .bracket members negated text => .bracket members negated text :: nodesOfAll members
  | p => [p]

def nodesOfAll : List Pattern → List Pattern
  | [] => []
  | p :: ps => nodes p ++ nodesOfAll ps

end

theorem nodesOfAll_eq_flatMap (ps : List Pattern) : nodesOfAll ps = ps.flatMap nodes := by
  induction ps with
  | nil => rfl
  | cons p ps ih => rw [nodesOfAll, ih, List.flatMap_cons]

theorem nodes_eq_cons (p : Pattern) : p.nodes = p :: p.children.flatMap nodes := by
  cases p <;> simp [nodes, children, nodesOfAll_eq_flatMap]

theorem mem_nodes_of_mem_children {p c q : Pattern} (hc : c ∈ p.children) (hq : q ∈ c.nodes) :
    q ∈ p.nodes := by
  rw [nodes_eq_cons]
  exact List.mem_cons_of_mem p (List.mem_flatMap_of_mem hc hq)

theorem forall_mem_nodes {P : Pattern → Prop} {p : Pattern} :
    (∀ q ∈ p.nodes, P q) ↔ P p ∧ ∀ c ∈ p.children, ∀ q ∈ c.nodes, P q := by
  rw [nodes_eq_cons, List.forall_mem_cons]
  simp only [List.mem_flatMap, forall_exists_index, and_imp]
  refine and_congr_right fun _ ↦ ⟨fun h c hc q hq ↦ h q c hc hq, fun h q c hc hq ↦ h c hc q hq⟩

end RegexWords.Pattern

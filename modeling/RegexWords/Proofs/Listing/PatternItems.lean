import RegexWords.Proofs.Listing.Items
import RegexWords.Proofs.Pattern.Language

namespace RegexWords.Listing

theorem ofShorthand_eq {s : Settings} (tag : Char) :
    ofShorthand s tag =
      match s.alphabets.named? tag with
      | some cs => characters cs
      | none => sampling (Pattern.shorthand tag).text s.alphabets.candidates := by
  fun_cases ofShorthand s tag with
  | case4 => simp_all [Alphabets.named?]
  | _ => rfl

variable [Compiler]

def rangeMembers (s : Settings) (first last : Char) : List Char :=
  match s.mode with
  | .exhaustive => Interval.all first last
  | .examples => Interval.samples first last

def shorthandItems (s : Settings) (tag : Char) : List Item :=
  match s.alphabets.named? tag with
  | some cs => letters cs
  | none => sampled (Pattern.shorthand tag).text s.alphabets.candidates

def anchorItems (a : Anchor) : List Item :=
  if a.isEnd then [.ok ""] else [.error (.anchor a)]

def groupItems (kind : GroupKind) (lists : List (List Item)) : List Item :=
  if kind.isPlain then joined lists else [.error (.group kind)]

mutual

def items (s : Settings) : Pattern → List Item
  | .sequence ps => joined (itemsOfAll s ps)
  | .choice ps => roundRobin (itemsOfAll s ps)
  | .anchor a => anchorItems a
  | .group kind body => groupItems kind (itemsOfAll s body)
  | .repetition bounds _ p => repeated (items s p) (Counts.ofBounds s bounds).toList
  | .literal c => letters [c]
  | .range first last => letters (rangeMembers s first last)
  | .shorthand tag => shorthandItems s tag
  | .bracket members false _ => roundRobin (itemsOfAll s members)
  | .bracket _ true text => sampled text s.alphabets.candidates
  | .anyCharacter => letters s.alphabets.anyCharacter
  | .reference _ => [.error .reference]

def itemsOfAll (s : Settings) : List Pattern → List (List Item)
  | [] => []
  | p :: ps => items s p :: itemsOfAll s ps

end

variable {s : Settings}

theorem sampled_eq (a : Alphabets) (text : String) :
    ∃ e, sampled text a.candidates =
      if a.accepted text = [] then [.error e] else letters (a.accepted text) := by
  unfold sampled Alphabets.accepted
  generalize (ClassText.matcher? text).map a.candidates.filter = found
  match found with
  | none => exact ⟨.unreadable text, rfl⟩
  | some [] => exact ⟨.unsatisfiable a.candidates text, rfl⟩
  | some (c :: cs) => exact ⟨.unreadable text, rfl⟩

theorem itemsOfAll_eq_map (ps : List Pattern) : itemsOfAll s ps = ps.map (items s) := by
  induction ps with
  | nil => rfl
  | cons p ps ih => rw [itemsOfAll, ih, List.map_cons]

theorem items_sequence (ps : List Pattern) :
    items s (.sequence ps) = joined (ps.map (items s)) := by
  rw [items, itemsOfAll_eq_map]

theorem items_choice (ps : List Pattern) :
    items s (.choice ps) = roundRobin (ps.map (items s)) := by
  rw [items, itemsOfAll_eq_map]

theorem items_group (kind : GroupKind) (ps : List Pattern) :
    items s (.group kind ps) =
      if kind.isPlain then joined (ps.map (items s)) else [.error (.group kind)] := by
  rw [items, itemsOfAll_eq_map, groupItems]

theorem items_bracket (ps : List Pattern) (text : String) :
    items s (.bracket ps false text) = roundRobin (ps.map (items s)) := by
  rw [items, itemsOfAll_eq_map]

theorem forall₂_lists {ps : List Pattern}
    (h : ∀ p ∈ ps, Lists reply (ofPattern s p) (items s p)) :
    List.Forall₂ (Lists reply) (ofPatterns s ps) (itemsOfAll s ps) := by
  rw [ofPatterns_eq_map, itemsOfAll_eq_map, List.forall₂_map_left_iff,
    List.forall₂_map_right_iff, List.forall₂_same]
  exact h

theorem lists_ofRange (first last : Char) :
    Lists reply (ofRange s first last) (letters (rangeMembers s first last)) := by
  unfold ofRange rangeMembers
  cases s.mode with
  | exhaustive => exact lists_interval first last
  | examples => exact lists_characters _

theorem lists_ofShorthand (tag : Char) :
    Lists reply (ofShorthand s tag) (shorthandItems s tag) := by
  rw [ofShorthand_eq, shorthandItems]
  cases s.alphabets.named? tag with
  | some cs => exact lists_characters cs
  | none => exact lists_sampling _ _

theorem lists_ofAnchor (a : Anchor) : Lists reply (ofAnchor a) (anchorItems a) := by
  cases a with
  | textStart | textEnd => exact lists_words [""]
  | wordBoundary | notWordBoundary => exact lists_failing _

theorem lists_ofGroup (kind : GroupKind) {body : List Listing} {lists : List (List Item)}
    (h : List.Forall₂ (Lists reply) body lists) :
    Lists reply (ofGroup kind body) (groupItems kind lists) := by
  cases kind with
  | capturing | plain => exact lists_concatenation h
  | lookahead | negativeLookahead | lookbehind | negativeLookbehind => exact lists_failing _

theorem lists_ofPattern (s : Settings) (p : Pattern) :
    Lists reply (ofPattern s p) (items s p) := by
  induction p with
  | sequence ps ih => exact lists_concatenation (forall₂_lists ih)
  | choice ps ih => exact lists_choice (forall₂_lists ih)
  | anchor a => exact lists_ofAnchor a
  | group kind body ih => exact lists_ofGroup kind (forall₂_lists ih)
  | repetition bounds _ p ih => exact lists_repeating ih rfl
  | literal c => exact lists_characters [c]
  | range first last => exact lists_ofRange first last
  | shorthand tag => exact lists_ofShorthand tag
  | bracket members negated text ih =>
    cases negated with
    | false => exact lists_choice (forall₂_lists ih)
    | true => exact lists_sampling text _
  | anyCharacter => exact lists_characters _
  | reference _ => exact lists_failing _

end RegexWords.Listing

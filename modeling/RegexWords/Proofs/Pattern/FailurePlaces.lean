import Mathlib.Data.List.Infix
import RegexWords.Proofs.Pattern.BracketText
import RegexWords.Proofs.Pattern.Drafts

namespace RegexWords

open Text

namespace Failure

variable {α β : Type} {e : Failure} {cs : List Char}

theorem eq_error_of_map {f : α → β} {x : Except Failure α} (h : x.map f = .error e) :
    x = .error e := by
  cases x with
  | error e' => exact congrArg _ (Except.error.inj h)
  | ok a => cases h

theorem isSuffix_rest (h : e.place <:+ cs) : e.rest <:+ cs := by
  unfold rest
  split
  · exact List.nil_suffix
  · exact List.nil_suffix
  · exact h

end Failure

namespace Bracket

variable {c : Char} {cs place : List Char} {e : Failure}

theorem place_of_readAtom (h : readAtom c cs = .error e) : e.place = c :: cs := by
  fun_cases readAtom c cs with
  | case4 cs hb hd he =>
    simp only [readAtom, he] at h
    cases h
    rfl
  | case1 | case2 => cases h
  | case3 cs hb hd f rest hf => simp [readAtom, hf] at h
  | case5 c cs _ _ hc =>
    rw [readAtom] at h
    · cases h
    all_goals assumption

theorem place_of_join {first last : Pattern} (h : join place first last = .error e) :
    e.place = place := by
  unfold join at h
  split at h
  · split at h
    · cases h
    · cases h
      rfl
  · cases h

theorem place_isSuffix_of_readMember (h : readMember c cs = .error e) : e.place <:+ c :: cs := by
  unfold readMember at h
  split at h
  · next ha =>
    cases h
    rw [place_of_readAtom ha]
  · cases h
  · cases h
  · next ha =>
    split at h
    · next hb =>
      cases h
      rw [place_of_readAtom hb]
      exact ((List.suffix_cons _ _).trans (isSuffix_of_readAtom ha)).trans (List.suffix_cons _ _)
    · rw [place_of_join (Failure.eq_error_of_map h)]
  · cases h

theorem place_isSuffix_of_readMembers (hcs : cs <:+ place) (h : readMembers place cs = .error e) :
    e.place <:+ place := by
  fun_induction readMembers place cs with
  | case1 =>
    cases h
    exact List.suffix_refl _
  | case2 => cases h
  | case3 c cs _ e' he =>
    cases h
    exact (place_isSuffix_of_readMember he).trans hcs
  | case4 c cs _ ps rest hm _ ih =>
    have hrest := (isSuffix_of_readMember hm).trans (List.suffix_cons c cs)
    exact ih (hrest.trans hcs) (Failure.eq_error_of_map h)

theorem place_isSuffix_of_read (h : read cs = .error e) : e.place <:+ '[' :: cs := by
  unfold read at h
  split at h
  · refine place_isSuffix_of_readMembers ?_ (Failure.eq_error_of_map h)
    exact (List.suffix_cons _ _).trans (List.suffix_cons _ _)
  · exact place_isSuffix_of_readMembers (List.suffix_cons _ _) (Failure.eq_error_of_map h)

end Bracket

namespace Token

variable {c : Char} {cs : List Char} {e : Failure}

theorem place_isSuffix_of_readName (h : readName cs = .error e) : e.place <:+ cs := by
  unfold readName at h
  split at h
  · cases h
    exact List.suffix_refl _
  · split at h
    · cases h
      exact List.suffix_refl _
    · split at h
      · cases h
      · cases h
        exact List.dropWhile_suffix isNameCharacter

theorem place_isSuffix_of_readOpening (h : readOpening cs = .error e) : e.place <:+ cs := by
  unfold readOpening at h
  split at h
  case h_6 =>
    have hname := place_isSuffix_of_readName (Failure.eq_error_of_map h)
    exact hname.trans ((List.suffix_cons _ _).trans (List.suffix_cons _ _))
  all_goals cases h

theorem place_of_readEscape (h : readEscape cs = .error e) : e.place = '\\' :: cs := by
  have hcharacter {cs : List Char} (h : readEscape.readCharacter cs = .error e) :
      e.place = '\\' :: cs := by
    unfold readEscape.readCharacter at h
    split at h
    · cases h
    · cases h
      rfl
  unfold readEscape at h
  split at h
  · cases h
  · cases h
  · split at h
    · split at h
      · cases h
      · exact hcharacter h
    · exact hcharacter h

theorem place_isSuffix_of_read (h : read c cs = .error e) : e.place <:+ c :: cs := by
  unfold read at h
  split at h
  case h_3 => exact (place_isSuffix_of_readOpening h).trans (List.suffix_cons _ _)
  case h_4 => exact Bracket.place_isSuffix_of_read (Failure.eq_error_of_map h)
  case h_5 => rw [place_of_readEscape h]
  case h_12 => split at h <;> cases h
  all_goals cases h

end Token

namespace Draft

variable {d d' : Draft} {cs text place : List Char} {t : Token} {e : Failure}

def OpenedIn (text : List Char) (d : Draft) : Prop := ∀ g ∈ d.groups, g.place <:+ text

theorem Pushes.openedIn (h : Pushes place d t d') (hd : d.OpenedIn text) (hplace : place <:+ text) :
    d'.OpenedIn text := by
  cases h with
  | item | repetition | bar => exact hd
  | openGroup => exact List.forall_mem_cons.2 ⟨hplace, hd⟩
  | closeGroup => exact (List.forall_mem_cons.1 hd).2

theorem OpenedIn.extend (hd : d.OpenedIn text) (hcs : cs <:+ text) (h : d.extend cs = .ok d') :
    d'.OpenedIn text := by
  fun_induction Draft.extend d cs with
  | case1 =>
    cases h
    exact hd
  | case2 => cases h
  | case3 => cases h
  | case4 d c cs t rest hread _ e hpush ih =>
    refine ih ((pushes_of_push hpush).openedIn hd hcs) ?_ h
    exact ((Token.isSuffix_of_read hread).trans (List.suffix_cons c cs)).trans hcs

theorem place_isSuffix_of_extend (h : d.extend cs = .error e) : e.place <:+ cs := by
  fun_induction Draft.extend d cs with
  | case1 => cases h
  | case2 d c cs e' he =>
    cases h
    exact Token.place_isSuffix_of_read he
  | case3 =>
    cases h
    exact List.suffix_refl _
  | case4 d c cs t rest hread _ d' hpush ih =>
    exact (ih h).trans ((Token.isSuffix_of_read hread).trans (List.suffix_cons c cs))

end Draft

namespace Text

theorem byteLength_toList (text : String) : byteLength text.toList = text.utf8ByteSize := by
  have hofList (cs : List Char) : byteLength cs = (String.ofList cs).utf8ByteSize := by
    induction cs with
    | nil => rfl
    | cons c cs ih =>
      rw [String.ofList_cons, String.utf8ByteSize_append, String.utf8ByteSize_singleton, ← ih,
        byteLength_cons]
  rw [hofList, String.ofList_toList]

theorem byteLength_le_of_isSuffix {rest cs : List Char} (h : rest <:+ cs) :
    byteLength rest ≤ byteLength cs := by
  obtain ⟨taken, rfl⟩ := h
  rw [byteLength_append]
  exact Nat.le_add_left _ _

end Text

def ParseError.shift (n : ℕ) (e : ParseError) : ParseError := { e with offset := n + e.offset }

theorem Failure.located_append {e : Failure} {cs : List Char} (h : e.place <:+ cs)
    (front : List Char) : e.located (front ++ cs) = (e.located cs).shift (byteLength front) := by
  have hle := byteLength_le_of_isSuffix h
  rw [located, located, ParseError.shift, byteLength_append, Nat.add_sub_assoc hle]

namespace Pattern

theorem place_isSuffix_of_read {cs : List Char} {e : Failure} (h : read cs = .error e) :
    e.place <:+ cs := by
  unfold read at h
  split at h
  · next he =>
    cases h
    exact Draft.place_isSuffix_of_extend he
  · next d hd =>
    have hempty : Draft.empty.OpenedIn cs := List.forall_mem_nil _
    have hopened := hempty.extend (List.suffix_refl cs) hd
    unfold Draft.finish at h
    split at h
    · cases h
    · next g groups hgroups =>
      cases h
      exact hopened g (hgroups ▸ List.mem_cons_self)

def readLength (cs : List Char) : ℕ :=
  match read cs with
  | .ok _ => byteLength cs
  | .error e => byteLength cs - byteLength e.rest

theorem readLength_le (cs : List Char) : readLength cs ≤ byteLength cs := by
  unfold readLength
  split
  · exact le_rfl
  · exact Nat.sub_le _ _

theorem readLength_of_parse {text : String} {p : Pattern} (h : parse text = .ok p) :
    readLength text.toList = byteLength text.toList := by
  rw [readLength, parse_eq_ok_iff.1 h]

theorem parseFrom_append (front text : String) :
    parseFrom (front ++ text) front.utf8ByteSize =
      some ((parse text).mapError (·.shift front.utf8ByteSize),
        front.utf8ByteSize + readLength text.toList) := by
  rw [← byteLength_toList, parseFrom, String.toList_append, dropBytes_append, Option.map_some,
    parse, readLength]
  cases hread : read text.toList with
  | ok p => simp [Except.mapError]
  | error e =>
    have hplace := place_isSuffix_of_read hread
    have hrest := byteLength_le_of_isSuffix (Failure.isSuffix_rest hplace)
    simp [Except.mapError, Failure.located_append hplace, Nat.add_sub_assoc hrest]

theorem parseFrom_zero (text : String) :
    parseFrom text 0 = some (parse text, readLength text.toList) := by
  have hshift : (parse text).mapError (·.shift 0) = parse text := by
    cases parse text <;> simp [Except.mapError, ParseError.shift]
  simpa [hshift] using parseFrom_append "" text

end Pattern

end RegexWords

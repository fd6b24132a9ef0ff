import Mathlib.Data.List.Dedup
import Mathlib.Data.List.Induction
import RegexWords.CharSet.ClassText
import RegexWords.Listing.Obstacle
import RegexWords.Listing.Workspace

namespace RegexWords

section Calls

variable [Compiler]

namespace ClassTable

variable {t : ClassTable} {text : String}

def keys (t : ClassTable) : List String := t.entries.map Prod.fst

def compiles (text : String) : Bool := (ClassText.matcher? text).isSome

theorem isKnown_iff : t.isKnown text ↔ text ∈ t.keys := by
  rw [isKnown, kept?, keys, List.lookup_isSome_iff, List.mem_map]
  refine exists_congr fun e ↦ and_congr_right fun _ ↦ ?_
  rw [beq_iff_eq, eq_comm]

theorem keys_request (t : ClassTable) (text : String) :
    (t.request text).2.keys =
      if text ∈ t.keys ∨ ¬compiles text then t.keys else t.keys ++ [text] := by
  split
  · next h =>
    rcases h with h | h
    · rw [table_request_of_known (isKnown_iff.2 h)]
    · rw [table_request_of_uncompiled]
      simpa [compiles] using h
  · next h =>
    rw [not_or, not_not] at h
    have hnone : t.kept? text = none := by
      simpa [isKnown] using mt isKnown_iff.1 h.1
    obtain ⟨matcher, hr⟩ := Option.isSome_iff_exists.1 h.2
    unfold request
    simp only [hnone]
    split
    · simp [keys, keep]
    · next he =>
      rw [hr] at he
      cases he

theorem mem_keys_request_iff {other : String} :
    other ∈ (t.request text).2.keys ↔ other ∈ t.keys ∨ other = text ∧ compiles text := by
  rw [keys_request]
  split
  · next h =>
    refine ⟨.inl, ?_⟩
    rintro (hmem | ⟨rfl, hcompiles⟩)
    · exact hmem
    · exact h.resolve_right (not_not.2 hcompiles)
  · next h =>
    rw [not_or, not_not] at h
    rw [List.mem_append, List.mem_singleton, and_iff_left h.2]

theorem nodup_keys_request (h : t.keys.Nodup) (text : String) :
    (t.request text).2.keys.Nodup := by
  rw [keys_request]
  split
  · exact h
  · next hnew =>
    rw [not_or] at hnew
    exact List.nodup_append'.2 ⟨h, List.nodup_singleton _, by simpa using hnew.1⟩

theorem keys_isPrefix_request (t : ClassTable) (text : String) :
    t.keys <+: (t.request text).2.keys := by
  rw [keys_request]
  split
  · exact List.prefix_refl _
  · exact List.prefix_append _ _

theorem slot?_eq (t : ClassTable) (text : String) : t.slot? text = t.keys.idxOf? text := by
  rw [slot?, keys, List.idxOf?, List.findIdx?_map]
  rfl

theorem exists_slot_of_mem_keys (h : text ∈ t.keys) : ∃ k, t.slot? text = some k := by
  rw [slot?_eq]
  exact Option.isSome_iff_exists.1 (List.isSome_idxOf?.2 h)

theorem getElem?_keys_of_slot? {k : ℕ} (h : t.slot? text = some k) : t.keys[k]? = some text := by
  rw [slot?_eq, List.idxOf?_eq_some_iff] at h
  obtain ⟨hk, he, -⟩ := h
  rw [List.getElem?_eq_getElem hk, he]

end ClassTable

open ClassTable (compiles)

/-- What is asked of the table: the matcher of a text, or the candidates that it accepts. -/
inductive ClassCall where
  | get (text : String)
  | filter (text : String) (candidates : List Char)

inductive ClassAnswer where
  | matcher (slot : ℕ) (m : Matcher)
  | found (cs : List Char)

namespace ClassCall

def text : ClassCall → String
  | get text | filter text _ => text

def answer : ClassCall → Workspace → Except Obstacle ClassAnswer × Workspace
  | get text, w =>
    let r := w.classes.request text
    (match r.1, r.2.slot? text with
      | some matcher, some slot => .ok (.matcher slot matcher)
      | _, _ => .error (.unreadable text),
      ⟨r.2, w.requestEvent text :: w.journal⟩)
  | filter text candidates, w =>
    let r := (Workspace.filterClass text candidates).run w
    (match r.1 with
      | some found => .ok (.found found)
      | none => .error (.unreadable text),
      r.2)

def after (calls : List ClassCall) : Workspace :=
  calls.foldl (fun w call ↦ (call.answer w).2) .empty

def Succeeded (calls : List ClassCall) (text : String) : Prop :=
  ∃ front call back, calls = front ++ call :: back ∧ call.text = text ∧
    ∃ a, (call.answer (after front)).1 = .ok a

variable {calls : List ClassCall} {call : ClassCall} {text : String}

theorem classes_answer (call : ClassCall) (w : Workspace) :
    (call.answer w).2.classes = (w.classes.request call.text).2 := by
  cases call <;> rfl

theorem journal_answer (call : ClassCall) (w : Workspace) :
    (call.answer w).2.journal = w.requestEvent call.text :: w.journal := by
  cases call <;> rfl

theorem answer_of_not_compiles (h : ClassText.matcher? call.text = none) (w : Workspace) :
    (call.answer w).1 = .error (.unreadable call.text) := by
  cases call with
  | get text =>
    have hrequest : (w.classes.request text).1 = none :=
      (ClassTable.matcher_request w.classes text).trans h
    simp only [answer, hrequest]
    rfl
  | filter text candidates =>
    have hfilter : (Workspace.filterClass text candidates w).1 = none := by
      refine (ClassTable.found_filter w.classes text candidates).trans ?_
      rw [show ClassText.matcher? text = none from h]
      rfl
    simp only [answer, StateT.run, hfilter]
    rfl

theorem answer_filter {matcher : Matcher} (h : ClassText.matcher? text = some matcher)
    (candidates : List Char) (w : Workspace) :
    ((filter text candidates).answer w).1 = .ok (.found (candidates.filter matcher)) := by
  have hfilter : (Workspace.filterClass text candidates w).1 =
      some (candidates.filter matcher) := by
    refine (ClassTable.found_filter w.classes text candidates).trans ?_
    rw [h]
    rfl
  simp only [answer, StateT.run, hfilter]

theorem answer_get {matcher : Matcher} (h : ClassText.matcher? text = some matcher)
    (w : Workspace) :
    ∃ slot, ((get text).answer w).1 = .ok (.matcher slot matcher) ∧
      ((get text).answer w).2.classes.keys[slot]? = some text := by
  have hrequest : (w.classes.request text).1 = some matcher :=
    (ClassTable.matcher_request w.classes text).trans h
  have hcompiles : compiles text := by
    rw [compiles, h]
    rfl
  have hmem : text ∈ (w.classes.request text).2.keys :=
    ClassTable.mem_keys_request_iff.2 (.inr ⟨rfl, hcompiles⟩)
  obtain ⟨slot, hslot⟩ := ClassTable.exists_slot_of_mem_keys hmem
  refine ⟨slot, ?_, ?_⟩
  · simp only [answer, hrequest, hslot]
  · rw [classes_answer]
    exact ClassTable.getElem?_keys_of_slot? hslot

theorem exists_answer_ok_iff (call : ClassCall) (w : Workspace) :
    (∃ a, (call.answer w).1 = .ok a) ↔ compiles call.text := by
  cases h : ClassText.matcher? call.text with
  | none =>
    rw [answer_of_not_compiles h, compiles, h]
    simp
  | some matcher =>
    have hcompiles : compiles call.text := by
      rw [compiles, h]
      rfl
    refine iff_of_true ?_ hcompiles
    cases call with
    | get text =>
      obtain ⟨slot, hslot, -⟩ := answer_get h w
      exact ⟨_, hslot⟩
    | filter text candidates => exact ⟨_, answer_filter h candidates w⟩

theorem after_concat (calls : List ClassCall) (call : ClassCall) :
    after (calls ++ [call]) = (call.answer (after calls)).2 := by
  rw [after, List.foldl_append]
  rfl

theorem keys_isPrefix_after (calls back : List ClassCall) :
    (after calls).classes.keys <+: (after (calls ++ back)).classes.keys := by
  induction back using List.reverseRecOn with
  | nil => simp
  | append_singleton back call ih =>
    rw [← List.append_assoc, after_concat, classes_answer]
    exact ih.trans (ClassTable.keys_isPrefix_request _ _)

theorem mem_keys_after_iff (calls : List ClassCall) (text : String) :
    text ∈ (after calls).classes.keys ↔ text ∈ calls.map ClassCall.text ∧ compiles text := by
  induction calls using List.reverseRecOn with
  | nil => simp [after, Workspace.empty, ClassTable.empty, ClassTable.keys]
  | append_singleton calls call ih =>
    rw [after_concat, classes_answer, ClassTable.mem_keys_request_iff, ih, List.map_append,
      List.mem_append, List.map_singleton, List.mem_singleton, or_and_right]
    refine or_congr_right (and_congr_right ?_)
    rintro rfl
    rfl

theorem nodup_keys_after (calls : List ClassCall) : (after calls).classes.keys.Nodup := by
  induction calls using List.reverseRecOn with
  | nil => exact List.nodup_nil
  | append_singleton calls call ih =>
    rw [after_concat, classes_answer]
    exact ClassTable.nodup_keys_request ih _

theorem succeeded_iff (calls : List ClassCall) (text : String) :
    Succeeded calls text ↔ text ∈ (after calls).classes.keys := by
  rw [mem_keys_after_iff, Succeeded]
  simp only [exists_answer_ok_iff]
  constructor
  · rintro ⟨front, call, back, rfl, rfl, hcompiles⟩
    exact ⟨by simp, hcompiles⟩
  · rintro ⟨hmem, hcompiles⟩
    obtain ⟨call, hcall, rfl⟩ := List.mem_map.1 hmem
    obtain ⟨front, back, rfl⟩ := List.append_of_mem hcall
    exact ⟨front, call, back, rfl, rfl, hcompiles⟩

theorem size_after (calls : List ClassCall) :
    (after calls).classes.size = ((calls.map ClassCall.text).filter compiles).dedup.length := by
  have hsize : (after calls).classes.size = (after calls).classes.keys.length :=
    (List.length_map Prod.fst).symm
  rw [hsize]
  refine ((List.perm_ext_iff_of_nodup (nodup_keys_after calls) (List.nodup_dedup _)).2 ?_).length_eq
  intro text
  rw [mem_keys_after_iff, List.mem_dedup, List.mem_filter]

theorem requestEvent_beq_compilingClass_iff (w : Workspace) (asked text : String) :
    w.requestEvent asked == .compilingClass text ↔ asked = text ∧ text ∉ w.classes.keys := by
  by_cases hknown : asked ∈ w.classes.keys
  · rw [Workspace.requestEvent, if_pos (ClassTable.isKnown_iff.2 hknown)]
    refine iff_of_false Bool.false_ne_true ?_
    rintro ⟨rfl, hnew⟩
    exact hnew hknown
  · rw [Workspace.requestEvent, if_neg (mt ClassTable.isKnown_iff.1 hknown)]
    refine beq_iff_eq (α := String) |>.trans ?_
    constructor
    · rintro rfl
      exact ⟨rfl, hknown⟩
    · exact And.left

/-- A text is kept once it has been compiled, and then it is not compiled again. -/
theorem count_compilingClass_le (calls : List ClassCall) (h : compiles text) :
    (after calls).journal.count (.compilingClass text) ≤
      if text ∈ (after calls).classes.keys then 1 else 0 := by
  induction calls using List.reverseRecOn with
  | nil => exact Nat.zero_le _
  | append_singleton calls call ih =>
    rw [after_concat, journal_answer, classes_answer, List.count_cons]
    simp only [ClassTable.mem_keys_request_iff, requestEvent_beq_compilingClass_iff]
    by_cases hmem : text ∈ (after calls).classes.keys
    · rw [if_pos hmem] at ih
      simpa [hmem] using ih
    · rw [if_neg hmem] at ih
      simp only [hmem, not_false_eq_true, and_true, false_or, eq_comm (a := text)]
      by_cases hcall : call.text = text
      · rw [if_pos hcall, if_pos ⟨hcall, hcall ▸ h⟩]
        omega
      · rw [if_neg hcall]
        exact Nat.le_trans ih (Nat.zero_le _)

theorem exists_keys_of_get {slot : ℕ} {matcher : Matcher}
    (h : ((get text).answer (after calls)).1 = .ok (.matcher slot matcher))
    (back : List ClassCall) :
    ClassText.matcher? text = some matcher ∧
      (after (calls ++ get text :: back)).classes.keys[slot]? = some text := by
  cases hread : ClassText.matcher? text with
  | none =>
    have hnone : ClassText.matcher? (get text).text = none := hread
    rw [answer_of_not_compiles hnone] at h
    cases h
  | some found =>
    obtain ⟨place, hanswer, hplace⟩ := answer_get hread (after calls)
    rw [hanswer] at h
    cases h
    refine ⟨rfl, ?_⟩
    rw [← after_concat] at hplace
    have hkept := keys_isPrefix_after (calls ++ [get text]) back
    rw [List.append_assoc] at hkept
    obtain ⟨hlt, hget⟩ := List.getElem?_eq_some_iff.1 hplace
    exact (List.prefix_iff_getElem?.1 hkept slot hlt).trans (congrArg some hget)

theorem slot_eq_iff {back : List ClassCall} {text₁ text₂ : String} {slot₁ slot₂ : ℕ}
    {matcher₁ matcher₂ : Matcher}
    (h₁ : ((get text₁).answer (after calls)).1 = .ok (.matcher slot₁ matcher₁))
    (h₂ : ((get text₂).answer (after (calls ++ get text₁ :: back))).1 =
      .ok (.matcher slot₂ matcher₂)) :
    slot₁ = slot₂ ↔ text₁ = text₂ := by
  have hfirst := (exists_keys_of_get h₁ (back ++ [get text₂])).2
  have hsecond := (exists_keys_of_get h₂ []).2
  rw [List.append_assoc, List.cons_append] at hsecond
  constructor
  · rintro rfl
    exact Option.some.inj (hfirst.symm.trans hsecond)
  · rintro rfl
    have hlt := (List.getElem?_eq_some_iff.1 hfirst).1
    exact (List.getElem?_inj hlt (nodup_keys_after _)).1 (hfirst.trans hsecond.symm)

/-- Behind any calls the table holds the texts that were asked for and compile, each once. A text
that does not compile fails whenever it is asked for and leaves no trace, a matcher is identified by
its text, and a set finds the candidates that its matcher accepts. The journal says of each call
whether one before it succeeded with the text, so a text that compiles is compiled once at most. -/
theorem table_after (calls : List ClassCall) :
    ((after calls).classes.keys.Nodup ∧
      (∀ text, text ∈ (after calls).classes.keys ↔
        text ∈ calls.map ClassCall.text ∧ compiles text) ∧
      (after calls).classes.size =
        ((calls.map ClassCall.text).filter compiles).dedup.length) ∧
    (∀ call : ClassCall, ¬compiles call.text →
      (call.answer (after calls)).1 = .error (.unreadable call.text) ∧
        (call.answer (after calls)).2.classes = (after calls).classes ∧
        ∀ back, (call.answer (after (calls ++ call :: back))).1 =
          .error (.unreadable call.text)) ∧
    (∀ text matcher, ClassText.matcher? text = some matcher →
      (∃ slot, ((get text).answer (after calls)).1 = .ok (.matcher slot matcher)) ∧
        ∀ candidates, ((filter text candidates).answer (after calls)).1 =
          .ok (.found (candidates.filter matcher))) ∧
    (∀ back text₁ text₂ slot₁ slot₂ matcher₁ matcher₂,
      ((get text₁).answer (after calls)).1 = .ok (.matcher slot₁ matcher₁) →
      ((get text₂).answer (after (calls ++ get text₁ :: back))).1 =
        .ok (.matcher slot₂ matcher₂) →
      (slot₁ = slot₂ ↔ text₁ = text₂) ∧ (text₁ = text₂ → matcher₁ = matcher₂)) ∧
    (∀ call : ClassCall, ∃ event,
      (call.answer (after calls)).2.journal = event :: (after calls).journal ∧
        (Succeeded calls call.text → event = .reusingClass call.text) ∧
        (¬Succeeded calls call.text → event = .compilingClass call.text)) ∧
    ∀ text, compiles text → (after calls).journal.count (.compilingClass text) ≤ 1 := by
  refine ⟨⟨nodup_keys_after calls, mem_keys_after_iff calls, size_after calls⟩, ?_, ?_, ?_, ?_, ?_⟩
  · intro call hcall
    have hnone : ClassText.matcher? call.text = none := by simpa [compiles] using hcall
    refine ⟨answer_of_not_compiles hnone _, ?_, fun back ↦ answer_of_not_compiles hnone _⟩
    rw [classes_answer, ClassTable.table_request_of_uncompiled hnone]
  · intro text matcher hread
    obtain ⟨slot, hslot, -⟩ := answer_get hread (after calls)
    exact ⟨⟨slot, hslot⟩, fun candidates ↦ answer_filter hread candidates _⟩
  · intro back text₁ text₂ slot₁ slot₂ matcher₁ matcher₂ h₁ h₂
    refine ⟨slot_eq_iff h₁ h₂, ?_⟩
    rintro rfl
    have hread := (exists_keys_of_get h₁ []).1.symm.trans (exists_keys_of_get h₂ []).1
    exact Option.some.inj hread
  · intro call
    refine ⟨_, journal_answer call _, fun h ↦ ?_, fun h ↦ ?_⟩
    · exact if_pos (ClassTable.isKnown_iff.2 ((succeeded_iff calls call.text).1 h))
    · exact if_neg (mt ClassTable.isKnown_iff.1 (mt (succeeded_iff calls call.text).2 h))
  · intro text hcompiles
    have hcount := count_compilingClass_le calls hcompiles
    split at hcount <;> omega

end ClassCall

end Calls

namespace ClassCall

/-- A backspace that is written in two ways has two places, and an inverted range has none. -/
theorem table_after_twoBackspaces :
    let calls := [get "[\\b]", filter "[z-a]" ['x'], get "[\\b]"]
    (after calls).classes.size = 1 ∧
      ((filter "[z-a]" ['x']).answer (after calls)).1 = .error (.unreadable "[z-a]") ∧
      (∃ slot₁ slot₂ matcher,
        ((get "[\\b]").answer (after calls)).1 = .ok (.matcher slot₁ matcher) ∧
        ((get "[\\x08]").answer (after (calls ++ [get "[\\b]"]))).1 =
          .ok (.matcher slot₂ matcher) ∧ slot₁ ≠ slot₂) ∧
      (after calls).journal.count (.compilingClass "[\\b]") ≤ 1 := by
  intro calls
  have hone : ClassText.read? (ClassText.framed "[\\b]") =
      some (.ofSet (.union .empty (.singleton '\x08'))) := by decide +kernel
  have hback : ClassText.matcher? "[\\b]" = some _ := congrArg (Option.map _) hone
  have hhex : ClassText.matcher? "[\\x08]" = some _ := congrArg (Option.map _) hone
  have hinverted : ¬ClassTable.compiles "[z-a]" := by decide +kernel
  obtain ⟨⟨-, -, hsize⟩, hfail, hget, hslots, -, hcount⟩ := table_after calls
  obtain ⟨⟨slot₁, h₁⟩, -⟩ := hget _ _ hback
  obtain ⟨⟨slot₂, h₂⟩, -⟩ := (table_after (calls ++ [get "[\\b]"])).2.2.1 _ _ hhex
  refine ⟨hsize.trans (by decide +kernel), (hfail (filter _ _) hinverted).1,
    ⟨slot₁, slot₂, _, h₁, h₂, fun he ↦ ?_⟩, hcount _ (by decide +kernel)⟩
  exact absurd ((hslots [] _ _ _ _ _ _ h₁ h₂).1.1 he) (by decide)

end ClassCall

end RegexWords

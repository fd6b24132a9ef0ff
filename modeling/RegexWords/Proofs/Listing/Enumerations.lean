import RegexWords.Proofs.Listing.Words

namespace RegexWords

variable {δ τ : Type} {R R' : δ → String → Prop} {ws ws' : List String}

/-- The words of a list are those of the derivations in `R`, each derivation at one place. -/
def Enumerates (R : δ → String → Prop) (ws : List String) : Prop :=
  ∃ xs : List (δ × String), xs.map Prod.snd = ws ∧ (xs.map Prod.fst).Nodup ∧
    ∀ d w, (d, w) ∈ xs ↔ R d w

def Parts (Rs : List (δ → String → Prop)) (ds : List δ) (w : String) : Prop :=
  ∃ xs : List (δ × String), List.Forall₂ (fun R x ↦ R x.1 x.2) Rs xs ∧
    ds = xs.map Prod.fst ∧ w = String.join (xs.map Prod.snd)

def Copies (R : δ → String → Prop) (n : ℕ) (ds : List δ) (w : String) : Prop :=
  ∃ xs : List (δ × String), xs.length = n ∧ (∀ x ∈ xs, R x.1 x.2) ∧
    ds = xs.map Prod.fst ∧ w = String.join (xs.map Prod.snd)

theorem Copies.length_eq {n : ℕ} {ds : List δ} {w : String} (h : Copies R n ds w) :
    ds.length = n := by
  obtain ⟨xs, hlen, -, rfl, -⟩ := h
  rw [List.length_map, hlen]

theorem copies_one_iff {ds : List δ} {w : String} :
    Copies R 1 ds w ↔ ∃ d, [d] = ds ∧ R d w := by
  constructor
  · rintro ⟨xs, hlen, hR, rfl, rfl⟩
    obtain ⟨x, rfl⟩ := List.length_eq_one_iff.1 hlen
    exact ⟨x.1, rfl, by simpa using hR⟩
  · rintro ⟨d, rfl, hd⟩
    exact ⟨[(d, w)], rfl, by simpa using hd, rfl, by simp⟩

theorem copies_add_iff {k l : ℕ} {ds : List δ} {w : String} :
    Copies R (k + l) ds w ↔ ∃ as v bs v', Copies R k as v ∧ Copies R l bs v' ∧ ds = as ++ bs ∧
      w = v ++ v' := by
  constructor
  · rintro ⟨xs, hlen, hR, rfl, rfl⟩
    have hsplit : xs = xs.take k ++ xs.drop k := (List.take_append_drop k xs).symm
    refine ⟨_, _, _, _, ⟨xs.take k, ?_, fun x hx ↦ hR x (List.mem_of_mem_take hx), rfl, rfl⟩,
      ⟨xs.drop k, ?_, fun x hx ↦ hR x (List.mem_of_mem_drop hx), rfl, rfl⟩, ?_, ?_⟩
    · rw [List.length_take]
      omega
    · rw [List.length_drop]
      omega
    · rw [← List.map_append, ← hsplit]
    · rw [← String.join_append, ← List.map_append, ← hsplit]
  · rintro ⟨_, _, _, _, ⟨xs, hk, hR, rfl, rfl⟩, ⟨ys, hl, hR', rfl, rfl⟩, rfl, rfl⟩
    refine ⟨xs ++ ys, by rw [List.length_append, hk, hl], fun x hx ↦ ?_, ?_, ?_⟩
    · exact (List.mem_append.1 hx).elim (hR x) (hR' x)
    · rw [List.map_append]
    · rw [List.map_append, String.join_append]

theorem parts_pair_iff {Ds : List δ} {w : String} :
    Parts [R, R'] Ds w ↔ ∃ d v d' v', R d v ∧ R' d' v' ∧ Ds = [d, d'] ∧ w = v ++ v' := by
  constructor
  · rintro ⟨xs, hxs, rfl, rfl⟩
    obtain ⟨x, _, hx, hys, rfl⟩ := List.forall₂_cons_left_iff.1 hxs
    obtain ⟨y, _, hy, hnil, rfl⟩ := List.forall₂_cons_left_iff.1 hys
    obtain rfl := List.forall₂_nil_left_iff.1 hnil
    exact ⟨x.1, x.2, y.1, y.2, hx, hy, rfl, by simp⟩
  · rintro ⟨d, v, d', v', hd, hd', rfl, rfl⟩
    exact ⟨[(d, v), (d', v')], .cons hd (.cons hd' .nil), rfl, by simp⟩

namespace Enumerates

theorem congr (h : Enumerates R ws) (hR : ∀ d w, R d w ↔ R' d w) : Enumerates R' ws := by
  obtain ⟨xs, hws, hnodup, hmem⟩ := h
  exact ⟨xs, hws, hnodup, fun d w ↦ (hmem d w).trans (hR d w)⟩

theorem nil (hR : ∀ d w, ¬ R d w) : Enumerates R [] :=
  ⟨[], rfl, List.nodup_nil, fun d w ↦ by simp [hR]⟩

theorem unique (h : Enumerates R ws) {d : δ} {w w' : String} (hw : R d w) (hw' : R d w') :
    w = w' := by
  obtain ⟨xs, -, hnodup, hmem⟩ := h
  have heq := List.inj_on_of_nodup_map hnodup ((hmem d w).2 hw) ((hmem d w').2 hw') rfl
  exact (Prod.ext_iff.1 heq).2

theorem mem_iff (h : Enumerates R ws) {w : String} : w ∈ ws ↔ ∃ d, R d w := by
  obtain ⟨xs, rfl, -, hmem⟩ := h
  simp only [List.mem_map, Prod.exists, exists_eq_right, hmem]

theorem exists_equiv (h : Enumerates R ws) :
    ∃ e : {k : ℕ // ∃ w, ws[k]? = some w} ≃ {d : δ // ∃ w, R d w},
      ∀ k w, ws[k.1]? = some w ↔ R (e k).1 w := by
  obtain ⟨xs, rfl, hnodup, hmem⟩ := h
  have hlt (k : {k : ℕ // ∃ w, (xs.map Prod.snd)[k]? = some w}) : k.1 < xs.length := by
    obtain ⟨w, hw⟩ := k.2
    simpa using (List.getElem?_eq_some_iff.1 hw).1
  have hR (k) (hk : k < xs.length) : R xs[k].1 xs[k].2 := (hmem _ _).1 (List.getElem_mem hk)
  let f (k : {k : ℕ // ∃ w, (xs.map Prod.snd)[k]? = some w}) : {d : δ // ∃ w, R d w} :=
    ⟨(xs.get ⟨k.1, hlt k⟩).1, _, hR k.1 (hlt k)⟩
  have injective : Function.Injective f := by
    intro k l hkl
    have hfst : (xs.get ⟨k.1, hlt k⟩).1 = (xs.get ⟨l.1, hlt l⟩).1 := congrArg Subtype.val hkl
    have hk : k.1 < (xs.map Prod.fst).length := by simpa using hlt k
    have hl : l.1 < (xs.map Prod.fst).length := by simpa using hlt l
    have hget : (xs.map Prod.fst)[k.1] = (xs.map Prod.fst)[l.1] := by simpa using hfst
    exact Subtype.ext (hnodup.getElem_inj_iff.1 hget)
  have surjective : Function.Surjective f := by
    rintro ⟨d, w, hd⟩
    obtain ⟨k, hk, hx⟩ := List.mem_iff_getElem.1 ((hmem d w).2 hd)
    refine ⟨⟨k, w, by simp [hk, hx]⟩, Subtype.ext ?_⟩
    simp [f, hx]
  refine ⟨Equiv.ofBijective f ⟨injective, surjective⟩, fun k w ↦ ?_⟩
  have hk : (xs.map Prod.snd)[k.1]? = some (xs.get ⟨k.1, hlt k⟩).2 := by simp [hlt k]
  rw [hk, Option.some.injEq]
  constructor
  · rintro rfl
    exact hR k.1 (hlt k)
  · exact unique ⟨xs, rfl, hnodup, hmem⟩ (hR k.1 (hlt k))

theorem map {f : δ → τ} (h : Enumerates R ws)
    (hf : ∀ d w d' w', R d w → R d' w' → f d = f d' → d = d') :
    Enumerates (fun e w ↦ ∃ d, f d = e ∧ R d w) ws := by
  obtain ⟨xs, hws, hnodup, hmem⟩ := h
  refine ⟨xs.map (Prod.map f id), ?_, ?_, fun e w ↦ ?_⟩
  · rw [List.map_map]
    exact hws
  · have hfst : (xs.map (Prod.map f id)).map Prod.fst = (xs.map Prod.fst).map f := by
      simp only [List.map_map]
      rfl
    rw [hfst]
    apply hnodup.map_on
    intro d hd d' hd' heq
    obtain ⟨⟨d, w⟩, hx, rfl⟩ := List.mem_map.1 hd
    obtain ⟨⟨d', w'⟩, hx', rfl⟩ := List.mem_map.1 hd'
    exact hf d w d' w' ((hmem d w).1 hx) ((hmem d' w').1 hx') heq
  · constructor
    · intro he
      obtain ⟨⟨d, v⟩, hx, hdv⟩ := List.mem_map.1 he
      obtain ⟨rfl, rfl⟩ := Prod.ext_iff.1 hdv
      exact ⟨d, rfl, (hmem d v).1 hx⟩
    · rintro ⟨d, rfl, hd⟩
      exact List.mem_map.2 ⟨(d, w), (hmem d w).2 hd, rfl⟩

theorem append (h : Enumerates R ws) (h' : Enumerates R' ws')
    (hdisjoint : ∀ d w w', R d w → ¬ R' d w') :
    Enumerates (fun d w ↦ R d w ∨ R' d w) (ws ++ ws') := by
  obtain ⟨xs, rfl, hnodup, hmem⟩ := h
  obtain ⟨xs', rfl, hnodup', hmem'⟩ := h'
  refine ⟨xs ++ xs', List.map_append, ?_, fun d w ↦ ?_⟩
  · rw [List.map_append]
    apply hnodup.append hnodup'
    intro d hd hd'
    obtain ⟨⟨d, w⟩, hx, rfl⟩ := List.mem_map.1 hd
    obtain ⟨⟨d', w'⟩, hx', rfl⟩ := List.mem_map.1 hd'
    exact hdisjoint d' w w' ((hmem d' w).1 hx) ((hmem' d' w').1 hx')
  · rw [List.mem_append, hmem, hmem']

theorem getElem (ws : List String) : Enumerates (fun (i : ℕ) w ↦ ws[i]? = some w) ws := by
  refine ⟨ws.zipIdx.map Prod.swap, ?_, ?_, fun i w ↦ ?_⟩
  · rw [List.map_map]
    exact List.zipIdx_map_fst 0 ws
  · have hnumbers : (ws.zipIdx.map Prod.swap).map Prod.fst = List.range ws.length := by
      rw [List.map_map, List.range_eq_range']
      exact List.zipIdx_map_snd 0 ws
    rw [hnumbers]
    exact List.nodup_range
  · constructor
    · intro h
      obtain ⟨⟨v, k⟩, hx, hxi⟩ := List.mem_map.1 h
      obtain ⟨rfl, rfl⟩ := Prod.ext_iff.1 hxi
      exact List.mem_zipIdx_iff_getElem?.1 hx
    · intro h
      exact List.mem_map.2 ⟨(w, i), List.mem_zipIdx_iff_getElem?.2 h, rfl⟩

theorem exists_lists {Rs : List (δ → String → Prop)} {lists : List (List String)}
    (h : List.Forall₂ Enumerates Rs lists) :
    ∃ xss : List (List (δ × String)), xss.map (List.map Prod.snd) = lists ∧
      (∀ xs ∈ xss, (xs.map Prod.fst).Nodup) ∧
      List.Forall₂ (fun R xs ↦ ∀ x, x ∈ xs ↔ R x.1 x.2) Rs xss := by
  induction h with
  | nil => exact ⟨[], rfl, by simp, .nil⟩
  | cons hR _ ih =>
    obtain ⟨xs, rfl, hnodup, hmem⟩ := hR
    obtain ⟨xss, rfl, hnodups, hmems⟩ := ih
    exact ⟨xs :: xss, rfl, List.forall_mem_cons.2 ⟨hnodup, hnodups⟩,
      .cons (fun x ↦ hmem x.1 x.2) hmems⟩

theorem forall₂_mem_iff {Rs : List (δ → String → Prop)} {xss : List (List (δ × String))}
    (h : List.Forall₂ (fun R xs ↦ ∀ x, x ∈ xs ↔ R x.1 x.2) Rs xss) {xs : List (δ × String)} :
    List.Forall₂ (· ∈ ·) xs xss ↔ List.Forall₂ (fun R x ↦ R x.1 x.2) Rs xs := by
  induction h generalizing xs with
  | nil => rw [List.forall₂_nil_right_iff, List.forall₂_nil_left_iff]
  | cons hR _ ih =>
    simp only [List.forall₂_cons_left_iff, List.forall₂_cons_right_iff, hR, ih]

theorem product {Rs : List (δ → String → Prop)} {lists : List (List String)}
    (h : List.Forall₂ Enumerates Rs lists) : Enumerates (Parts Rs) (concatenations lists) := by
  obtain ⟨xss, rfl, hnodups, hmems⟩ := exists_lists h
  refine ⟨(tuples xss).map fun xs ↦ (xs.map Prod.fst, String.join (xs.map Prod.snd)), ?_, ?_,
    fun ds w ↦ ?_⟩
  · rw [concatenations, tuples_map, List.map_map, List.map_map]
    rfl
  · rw [List.map_map]
    have hfst := tuples_map Prod.fst xss
    apply hfst ▸ nodup_tuples
    intro ds hds
    obtain ⟨xs, hxs, rfl⟩ := List.mem_map.1 hds
    exact hnodups xs hxs
  · simp only [List.mem_map, mem_tuples, forall₂_mem_iff hmems, Prod.mk.injEq, Parts]
    refine exists_congr fun xs ↦ and_congr_right fun _ ↦ and_congr eq_comm eq_comm

theorem power (h : Enumerates R ws) (n : ℕ) : Enumerates (Copies R n) (wordPower ws n) := by
  refine copies_induction (motive := fun n ws ↦ Enumerates (Copies R n) ws) ?_ ?_ ?_ n
  · refine ⟨[([], "")], rfl, List.nodup_singleton _, fun ds w ↦ ?_⟩
    simp [Copies]
  · exact (h.map (f := fun d ↦ [d]) (by simp)).congr fun ds w ↦ copies_one_iff.symm
  · intro k l as bs hk hl
    have hpair := product (.cons hk (.cons hl .nil))
    refine (hpair.map (f := List.flatten) ?_).congr fun ds w ↦ ?_
    · intro D w D' w' hD hD' heq
      obtain ⟨as, v, bs, v', has, -, rfl, -⟩ := parts_pair_iff.1 hD
      obtain ⟨as', u, bs', u', has', -, rfl, -⟩ := parts_pair_iff.1 hD'
      simp only [List.flatten_cons, List.flatten_nil, List.append_nil] at heq
      obtain ⟨rfl, rfl⟩ := List.append_inj heq (has.length_eq.trans has'.length_eq.symm)
      rfl
    · simp only [copies_add_iff, parts_pair_iff]
      constructor
      · rintro ⟨_, rfl, as, v, bs, v', has, hbs, rfl, rfl⟩
        exact ⟨as, v, bs, v', has, hbs, by simp, rfl⟩
      · rintro ⟨as, v, bs, v', has, hbs, rfl, rfl⟩
        exact ⟨[as, bs], by simp, as, v, bs, v', has, hbs, rfl, rfl⟩

theorem flatMap_power (h : Enumerates R ws) {counts : List ℕ} (hcounts : counts.Nodup) :
    Enumerates (fun ds w ↦ ∃ n ∈ counts, Copies R n ds w) (counts.flatMap (wordPower ws)) := by
  induction counts with
  | nil => exact nil (by simp)
  | cons n counts ih =>
    obtain ⟨hn, hcounts⟩ := List.nodup_cons.1 hcounts
    rw [List.flatMap_cons]
    refine ((h.power n).append (ih hcounts) ?_).congr fun ds w ↦ by simp
    rintro ds w w' hds ⟨m, hm, hds'⟩
    rw [← hds.length_eq, hds'.length_eq] at hn
    exact hn hm

def numbered (xss : List (List (δ × String))) : List (List ((ℕ × δ) × String)) :=
  xss.mapIdx fun i xs ↦ xs.map fun x ↦ ((i, x.1), x.2)

theorem mem_numbered {xss : List (List (δ × String))} {l : List ((ℕ × δ) × String)} :
    l ∈ numbered xss ↔
      ∃ (i : ℕ) (xs : List (δ × String)), xss[i]? = some xs ∧
        l = xs.map fun x ↦ ((i, x.1), x.2) := by
  simp only [numbered, List.mem_iff_getElem?, List.getElem?_mapIdx, Option.map_eq_some_iff]
  simp only [eq_comm (b := l)]

theorem map_snd_numbered (xss : List (List (δ × String))) :
    (numbered xss).map (List.map Prod.snd) = xss.map (List.map Prod.snd) := by
  refine List.ext_getElem? fun i ↦ ?_
  simp only [numbered, List.getElem?_map, List.getElem?_mapIdx, Option.map_map]
  refine congrArg (Option.map · xss[i]?) (funext fun xs ↦ ?_)
  exact List.map_map

theorem nodup_fst_numbered {xss : List (List (δ × String))}
    (h : ∀ xs ∈ xss, (xs.map Prod.fst).Nodup) :
    (RegexWords.roundRobin ((numbered xss).map (List.map Prod.fst))).Nodup := by
  refine nodup_roundRobin (fun l hl ↦ ?_) ?_
  · obtain ⟨_, hxs, rfl⟩ := List.mem_map.1 hl
    obtain ⟨i, xs, hi, rfl⟩ := mem_numbered.1 hxs
    have hpairs : (xs.map fun x ↦ ((i, x.1), x.2)).map Prod.fst =
        (xs.map Prod.fst).map (i, ·) := by simp
    rw [hpairs]
    exact (h xs (List.mem_of_getElem? hi)).map fun d d' he ↦ (Prod.ext_iff.1 he).2
  · rw [List.pairwise_map, numbered, List.pairwise_iff_getElem]
    intro i j _ _ hij x hx hy
    simp only [List.getElem_mapIdx, List.map_map, List.mem_map] at hx hy
    obtain ⟨y, -, rfl⟩ := hx
    obtain ⟨z, -, hz⟩ := hy
    exact hij.ne (Prod.ext_iff.1 hz).1.symm

theorem roundRobin {lists : List (List String)} {Rs : List (δ → String → Prop)}
    (h : List.Forall₂ Enumerates Rs lists) :
    Enumerates (fun (p : ℕ × δ) w ↦ ∃ R, Rs[p.1]? = some R ∧ R p.2 w) (roundRobin lists) := by
  obtain ⟨xss, rfl, hnodups, hmems⟩ := exists_lists h
  obtain ⟨hlen, hmem⟩ := forall₂_iff_getElem?.1 hmems
  refine ⟨RegexWords.roundRobin (numbered xss), ?_, ?_, fun p w ↦ ?_⟩
  · rw [← roundRobin_map, map_snd_numbered]
  · rw [← roundRobin_map]
    exact nodup_fst_numbered hnodups
  · rw [mem_roundRobin]
    constructor
    · rintro ⟨l, hl, hp⟩
      obtain ⟨i, xs, hi, rfl⟩ := mem_numbered.1 hl
      obtain ⟨x, hx, hxp⟩ := List.mem_map.1 hp
      cases hxp
      have hR : i < Rs.length := hlen ▸ (List.getElem?_eq_some_iff.1 hi).1
      exact ⟨Rs[i], List.getElem?_eq_getElem hR,
        (hmem i _ _ (List.getElem?_eq_getElem hR) hi x).1 hx⟩
    · rintro ⟨R, hR, hw⟩
      have hi : p.1 < xss.length := hlen ▸ (List.getElem?_eq_some_iff.1 hR).1
      have hxs := List.getElem?_eq_getElem hi
      refine ⟨_, mem_numbered.2 ⟨p.1, _, hxs, rfl⟩, List.mem_map.2 ⟨(p.2, w), ?_, rfl⟩⟩
      exact (hmem p.1 _ _ hR hxs (p.2, w)).2 hw

end Enumerates

end RegexWords

import TablePhrase.Proofs.Phrase.Scar

/-!
Replacing the entities of a phrase by their placeholders, one after another, wherever the text of
each occurs. While the entities occur as whole tokens only, this leads to the template. The first
one that also occurs in a part of a token leaves a scar, which no entity after it mends: so there is
no other way to the template.
-/

namespace TablePhrase.Phrase

open Text

section Stages
variable {kind : EntityKind} {done ts : List Token} {v t : Token}
  {front back rest after : List Char}

/-- What a token looks like when the entities of the kinds before this one are replaced, and of this
kind the done ones. -/
def stage (kind : EntityKind) (done : List Token) (t : Token) : List Char :=
  if isOfKind kind t = true ∧ t.chars ∈ done.map Token.chars then kind.placeholder.toList
  else t.shown (passed kind)

theorem not_mem_passed (kind : EntityKind) : kind ∉ passed kind := by
  cases kind <;> decide

theorem stage_of_other (ht : isOfKind kind t = false) (done : List Token) :
    stage kind done t = t.shown (passed kind) :=
  if_neg fun h => Bool.false_ne_true (ht.symm.trans h.1)

theorem stage_of_done (ht : isOfKind kind t = true) (hdone : t.chars ∈ done.map Token.chars) :
    stage kind done t = kind.placeholder.toList :=
  if_pos ⟨ht, hdone⟩

theorem stage_of_undone (ht : isOfKind kind t = true) (hdone : t.chars ∉ done.map Token.chars) :
    stage kind done t = t.chars := by
  rw [stage, if_neg fun h => hdone h.2]
  exact shown_of_not_mem (beq_iff_eq.mp ht) (not_mem_passed kind)

theorem stage_nil (kind : EntityKind) : stage kind [] = Token.shown (passed kind) := by
  funext t
  exact if_neg fun h => List.not_mem_nil h.2

theorem stage_filter (ht : t ∈ ts) :
    stage kind (ts.filter (isOfKind kind)) t = t.shown (passed kind ++ [kind]) := by
  rw [← filled_shown, Lifting.Separates.filled]
  cases hkind : isOfKind kind t with
  | true => exact stage_of_done hkind (List.mem_map_of_mem (List.mem_filter.mpr ⟨ht, hkind⟩))
  | false => exact stage_of_other hkind _

theorem not_avoids_self (v : Token) (rest : List Char) : ¬ Avoids v.chars v.chars rest :=
  not_avoids_of_isInfix (chars_ne_nil v) List.infix_rfl rest

theorem stage_eq_chars_iff (hv : isOfKind kind v = true) :
    stage kind done t = v.chars ↔
      isOfKind kind t = true ∧ t.chars ∉ done.map Token.chars ∧ t.chars = v.chars := by
  cases ht : isOfKind kind t with
  | false =>
    rw [stage_of_other ht]
    refine ⟨fun h => ?_, fun h => absurd h.1 Bool.false_ne_true⟩
    have havoids := avoids_other_kind hv ht atBreak_nil
    rw [h] at havoids
    exact absurd havoids (not_avoids_self v [])
  | true =>
    by_cases hdone : t.chars ∈ done.map Token.chars
    · rw [stage_of_done ht hdone]
      refine ⟨fun h => ?_, fun h => absurd hdone h.2.1⟩
      exact absurd (h ▸ List.infix_rfl) (not_placeholder_infix_chars kind v)
    · rw [stage_of_undone ht hdone]
      exact ⟨fun h => ⟨rfl, hdone, h⟩, fun h => h.2.2⟩

theorem space_not_mem_head (hv : isOfKind kind v = true) : ' ' ∉ v.chars.head? := by
  obtain ⟨c, tail, hchars, hc⟩ := exists_eq_cons_of_isOfKind hv
  rw [hchars]
  rintro ⟨⟩
  cases kind <;> cases hc

theorem replaceAll_stage (hv : isOfKind kind v = true)
    (h : IsWhole v.chars (stage kind done) ts) :
    replaceAll v.chars kind.placeholder.toList (spaced (stage kind done) ts) =
      spaced (stage kind (done ++ [v])) ts := by
  rw [replaceAll_spaced (chars_ne_nil v) (space_not_mem_head hv) _ h]
  congr 1
  funext t
  have hmem : t.chars ∈ (done ++ [v]).map Token.chars ↔
      t.chars ∈ done.map Token.chars ∨ t.chars = v.chars := by
    simp
  cases ht : isOfKind kind t with
  | false =>
    have hne : stage kind done t ≠ v.chars := fun h =>
      Bool.false_ne_true (ht.symm.trans ((stage_eq_chars_iff hv).mp h).1)
    rw [if_neg hne, stage_of_other ht, stage_of_other ht]
  | true =>
    by_cases hdone : t.chars ∈ done.map Token.chars
    · rw [stage_of_done ht hdone, stage_of_done ht (hmem.mpr (.inl hdone)), ite_self]
    · rw [stage_of_undone ht hdone]
      by_cases hchars : t.chars = v.chars
      · rw [if_pos hchars, stage_of_done ht (hmem.mpr (.inr hchars))]
      · rw [if_neg hchars, stage_of_undone ht]
        exact fun h => (hmem.mp h).elim hdone hchars

theorem cuts_of_stage (hv : isOfKind kind v = true) (hne : stage kind done t ≠ v.chars)
    (hpiece : stage kind done t = front ++ back) (hback : back ≠ [])
    (htext : back ++ rest = v.chars ++ after) (hrest : AtBreak rest) : Cuts front after := by
  have hoccurs : ¬ Avoids v.chars (stage kind done t) rest := by
    rw [hpiece]
    exact not_avoids_of_isPrefix hback ⟨after, htext.symm⟩
  cases ht : isOfKind kind t with
  | false =>
    rw [stage_of_other ht] at hoccurs
    exact absurd (avoids_other_kind hv ht hrest) hoccurs
  | true =>
    by_cases hdone : t.chars ∈ done.map Token.chars
    · rw [stage_of_done ht hdone] at hoccurs hpiece
      by_cases hkind : kind = .condition
      · subst hkind
        obtain ⟨v, rfl⟩ := exists_eq_condition hv
        exact (cuts_of_placeholder hpiece hback htext hrest).1
      · exact absurd (avoids_placeholder hv hkind kind) hoccurs
    · rw [stage_of_undone ht hdone] at hne hpiece
      exact (cuts_of_same_kind hv ht hpiece hback htext hrest).2.resolve_left hne

theorem scarred_of_not_avoids (hv : isOfKind kind v = true) (hne : stage kind done t ≠ v.chars)
    (h : ¬ Avoids v.chars (stage kind done t) rest) (hrest : AtBreak rest) :
    Scarred (replaceAll v.chars kind.placeholder.toList (stage kind done t ++ rest)) := by
  obtain ⟨front, back, after, hpiece, hback, hfront, htext⟩ := exists_first_of_not_avoids h
  have hcuts := cuts_of_stage hv hne hpiece hback htext hrest
  rw [hpiece, List.append_assoc, replaceAll_append_of_avoids hfront, htext,
    replaceAll_needle_append (chars_ne_nil v)]
  exact scarred_of_cuts hcuts

theorem scarred_of_not_isWhole_cons (hv : isOfKind kind v = true)
    (hts : ¬ IsWhole v.chars (stage kind done) ts →
      Scarred (replaceAll v.chars kind.placeholder.toList (trailing (stage kind done) ts)))
    (h : ¬ IsWhole v.chars (stage kind done) (t :: ts)) :
    Scarred (replaceAll v.chars kind.placeholder.toList
      (stage kind done t ++ trailing (stage kind done) ts)) := by
  by_cases ht : stage kind done t = v.chars ∨
      Avoids v.chars (stage kind done t) (trailing (stage kind done) ts)
  · rw [replaceAll_shown (chars_ne_nil v) _ ht]
    exact (hts fun hwhole => h (isWhole_cons ht hwhole)).append_left _
  · obtain ⟨hne, havoids⟩ := not_or.mp ht
    exact scarred_of_not_avoids hv hne havoids (atBreak_trailing _ ts)

theorem scarred_trailing (hv : isOfKind kind v = true)
    (h : ¬ IsWhole v.chars (stage kind done) ts) :
    Scarred (replaceAll v.chars kind.placeholder.toList (trailing (stage kind done) ts)) := by
  induction ts with
  | nil => exact absurd (isWhole_nil _ _) h
  | cons t ts ih =>
    have hspace := not_prefix_space (chars_ne_nil v) (space_not_mem_head hv)
      (stage kind done t ++ trailing (stage kind done) ts)
    rw [trailing_cons, replaceAll_cons_skip hspace]
    exact (scarred_of_not_isWhole_cons hv ih h).append_left [' ']

theorem scarred_spaced (hv : isOfKind kind v = true)
    (h : ¬ IsWhole v.chars (stage kind done) ts) :
    Scarred (replaceAll v.chars kind.placeholder.toList (spaced (stage kind done) ts)) := by
  cases ts with
  | nil => exact absurd (isWhole_nil _ _) h
  | cons t ts => exact scarred_of_not_isWhole_cons hv (scarred_trailing hv) h

theorem operand_prefix_of_stage {o : Operand} (hrest : AtBreak rest)
    (h : stage .condition done t ++ rest = o.chars ++ after) : o.chars <+: t.chars := by
  cases ht : isOfKind .condition t with
  | false =>
    rw [stage_of_other ht, passed, shown_nil] at h
    exact operand_prefix_of_token ht h hrest
  | true =>
    obtain ⟨d, tail, hstage, hd⟩ : ∃ d tail,
        stage .condition done t = d :: tail ∧ Lifting.isOperator d = true := by
      by_cases hdone : t.chars ∈ done.map Token.chars
      · rw [stage_of_done ht hdone, EntityKind.placeholder_toList]
        exact ⟨'<', _, rfl, rfl⟩
      · rw [stage_of_undone ht hdone]
        exact exists_eq_cons_of_isOfKind ht
    rw [hstage] at h
    exact absurd h.symm (operand_append_ne_cons o hd after _)

theorem stage_of_goes_on (hv : isOfKind kind v = true) (h : v.chars <+: '>' :: ' ' :: t.chars)
    (done : List Token) : stage kind done t = t.chars := by
  obtain ⟨after, hafter⟩ := h
  have hkind : kind = .condition := by
    obtain ⟨c, tail, hchars, hc⟩ := exists_eq_cons_of_isOfKind hv
    rw [hchars] at hafter
    rw [(List.cons.inj hafter).1] at hc
    cases kind <;> first | rfl | cases hc
  subst hkind
  obtain ⟨v, rfl⟩ := exists_eq_condition hv
  obtain ⟨-, hnext⟩ := eq_of_closing hafter.symm (atBreak_space t.chars)
  cases ht : isOfKind .condition t with
  | false => rw [stage_of_other ht, passed, shown_nil]
  | true =>
    obtain ⟨d, tail, hchars, hd⟩ := exists_eq_cons_of_isOfKind ht
    have hoperand : t.chars = v.operand.chars ++ after := (List.cons.inj hnext).2
    rw [hchars] at hoperand
    exact absurd hoperand.symm (operand_append_ne_cons v.operand hd after tail)

end Stages

section Turns
variable {kind : EntityKind} {done later back ts : List Token} {v t : Token} {rest : List Char}

/-- An entity of the phrase when its turn to be replaced comes, behind the done ones of its kind:
it occurs as whole tokens only. -/
structure IsUndisturbed (ts : List Token) (kind : EntityKind) (done : List Token) (v : Token) :
    Prop where
  /-- It is a part of no other entity of its kind that is not replaced yet. -/
  apart : ∀ t ∈ ts, isOfKind kind t = true → v.chars <:+: t.chars →
    t.chars = v.chars ∨ t.chars ∈ done.map Token.chars
  /-- It does not begin a placeholder of its kind that is there already. -/
  outside : done ≠ [] → ¬ v.chars <+: kind.placeholder.toList
  /-- It does not begin with the end of such a placeholder and go on in the next token. -/
  behind : ∀ c w, [c, w] <:+: ts → isOfKind kind c = true → c.chars ∈ done.map Token.chars →
    ¬ v.chars <+: '>' :: ' ' :: w.chars

theorem infix_of_suffix {c w : Token} {back : List Token} (h : c :: w :: back <:+ ts) :
    [c, w] <:+: ts := by
  obtain ⟨front, rfl⟩ := h
  exact ⟨front, back, by simp⟩

theorem IsUndisturbed.avoids_done (h : IsUndisturbed ts kind done v) (hv : isOfKind kind v = true)
    (hsuffix : t :: back <:+ ts) (ht : isOfKind kind t = true)
    (hdone : t.chars ∈ done.map Token.chars) :
    Avoids v.chars kind.placeholder.toList (trailing (stage kind done) back) := by
  by_cases hkind : kind = .condition
  · subst hkind
    obtain ⟨v, rfl⟩ := exists_eq_condition hv
    have hne : done ≠ [] := List.ne_nil_of_mem (List.mem_map.mp hdone).choose_spec.1
    by_contra hoccurs
    obtain ⟨front, rest, after, hpiece, hrest, -, htext⟩ := exists_first_of_not_avoids hoccurs
    rcases (cuts_of_placeholder hpiece hrest htext (atBreak_trailing _ back)).2 with
      hbegins | ⟨hchars, hnext⟩
    · exact h.outside hne hbegins
    · cases back with
      | nil => cases hnext
      | cons w back =>
        have hoperand := operand_prefix_of_stage (atBreak_trailing _ back) (List.cons.inj hnext).2
        refine h.behind t w (infix_of_suffix hsuffix) ht hdone ?_
        rw [show (Token.condition v).chars = v.chars from rfl, hchars]
        exact List.cons_prefix_cons.mpr ⟨rfl, List.cons_prefix_cons.mpr ⟨rfl, hoperand⟩⟩
  · exact avoids_placeholder hv hkind kind

theorem IsUndisturbed.avoids_undone (h : IsUndisturbed ts kind done v)
    (hv : isOfKind kind v = true) (hmem : t ∈ ts) (ht : isOfKind kind t = true)
    (hdone : t.chars ∉ done.map Token.chars) (hrest : AtBreak rest) :
    t.chars = v.chars ∨ Avoids v.chars t.chars rest := by
  by_contra hoccurs
  obtain ⟨hne, havoids⟩ := not_or.mp hoccurs
  obtain ⟨front, tail, after, hpiece, htail, -, htext⟩ := exists_first_of_not_avoids havoids
  obtain ⟨hpart, -⟩ := cuts_of_same_kind hv ht hpiece htail htext hrest
  exact (h.apart t hmem ht hpart).elim hne hdone

theorem IsUndisturbed.isWhole (h : IsUndisturbed ts kind done v) (hv : isOfKind kind v = true) :
    IsWhole v.chars (stage kind done) ts := by
  intro t back hsuffix
  have hrest := atBreak_trailing (stage kind done) back
  cases ht : isOfKind kind t with
  | false =>
    rw [stage_of_other ht]
    exact .inr (avoids_other_kind hv ht hrest)
  | true =>
    by_cases hdone : t.chars ∈ done.map Token.chars
    · rw [stage_of_done ht hdone]
      exact .inr (h.avoids_done hv hsuffix ht hdone)
    · rw [stage_of_undone ht hdone]
      exact h.avoids_undone hv (hsuffix.subset List.mem_cons_self) ht hdone hrest

theorem avoids_placeholder_of_isWhole (hv : isOfKind kind v = true)
    (h : IsWhole v.chars (stage kind done) ts) (hsuffix : t :: back <:+ ts)
    (ht : isOfKind kind t = true) (hdone : t.chars ∈ done.map Token.chars) :
    Avoids v.chars kind.placeholder.toList (trailing (stage kind done) back) := by
  have hstage := stage_of_done ht hdone
  refine hstage ▸ (h t back hsuffix).resolve_left fun hchars => ?_
  exact ((stage_eq_chars_iff hv).mp hchars).2.1 hdone

theorem isUndisturbed_of_isWhole (hv : isOfKind kind v = true)
    (hdone : ∀ d ∈ done, d ∈ ts ∧ isOfKind kind d = true)
    (h : IsWhole v.chars (stage kind done) ts) : IsUndisturbed ts kind done v where
  apart := by
    intro t ht hkind hpart
    by_contra hneither
    obtain ⟨hchars, hundone⟩ := not_or.mp hneither
    obtain ⟨front, back, rfl⟩ := List.append_of_mem ht
    have ht := h t back (List.suffix_append front _)
    rw [stage_of_undone hkind hundone] at ht
    exact not_avoids_of_isInfix (chars_ne_nil v) hpart _ (ht.resolve_left hchars)
  outside := by
    intro hne hbegins
    obtain ⟨d, tail, rfl⟩ := List.exists_cons_of_ne_nil hne
    obtain ⟨hd, hkind⟩ := hdone d List.mem_cons_self
    obtain ⟨front, back, rfl⟩ := List.append_of_mem hd
    have havoids := avoids_placeholder_of_isWhole hv h (List.suffix_append front _) hkind
      List.mem_cons_self
    exact not_avoids_of_isInfix (chars_ne_nil v) hbegins.isInfix _ havoids
  behind := by
    rintro c w ⟨front, back, rfl⟩ hc hmem hbegins
    rw [List.append_assoc] at h
    have havoids := avoids_placeholder_of_isWhole hv h (List.suffix_append front _) hc hmem
    rw [EntityKind.placeholder_toList, ← List.cons_append] at havoids
    refine not_avoids_of_isPrefix (List.cons_ne_nil '>' []) (hbegins.trans ?_) havoids
    show '>' :: ' ' :: w.chars <+: '>' :: ' ' :: (stage kind done w ++ trailing _ back)
    rw [stage_of_goes_on hv hbegins done]
    exact ⟨trailing (stage kind done) back, rfl⟩

/-- Every entity of the kind is undisturbed when its turn comes. -/
def IsInTurn (ts : List Token) (kind : EntityKind) : Prop :=
  ∀ done v later, ts.filter (isOfKind kind) = done ++ v :: later → IsUndisturbed ts kind done v

def replaceEach (kind : EntityKind) (vs : List Token) (text : List Char) : List Char :=
  vs.foldl (fun text v => replaceAll v.chars kind.placeholder.toList text) text

theorem replaceEach_concat (kind : EntityKind) (vs : List Token) (v : Token) (text : List Char) :
    replaceEach kind (vs ++ [v]) text =
      replaceAll v.chars kind.placeholder.toList (replaceEach kind vs text) := by
  rw [replaceEach, List.foldl_append]
  rfl

theorem replaceEach_cases (h : ts.filter (isOfKind kind) = done ++ later) :
    (∀ before v after, done = before ++ v :: after → IsUndisturbed ts kind before v) ∧
        replaceEach kind done (spaced (stage kind []) ts) = spaced (stage kind done) ts ∨
      (∃ before v after, done = before ++ v :: after ∧ ¬ IsUndisturbed ts kind before v) ∧
        Scarred (replaceEach kind done (spaced (stage kind []) ts)) := by
  -- on the entities done so far: the last of them had its turn after all the others
  induction done using List.reverseRecOn generalizing later with
  | nil =>
    refine .inl ⟨fun before v after hnil => ?_, rfl⟩
    cases List.append_ne_nil_of_right_ne_nil before (List.cons_ne_nil v after) hnil.symm
  | append_singleton done v ih =>
    rw [List.append_assoc] at h
    have hmem {d : Token} (hd : d ∈ done ++ v :: later) : d ∈ ts ∧ isOfKind kind d = true :=
      List.mem_filter.mp (h ▸ hd)
    have hv : isOfKind kind v = true :=
      (hmem (List.mem_append_right _ List.mem_cons_self)).2
    rw [replaceEach_concat]
    rcases ih h with ⟨hgood, hstage⟩ | ⟨⟨before, u, after, rfl, hbad⟩, hscar⟩
    · by_cases hturn : IsUndisturbed ts kind done v
      · refine .inl ⟨fun before u after hsplit => ?_, ?_⟩
        · rcases List.eq_nil_or_concat' after with rfl | ⟨after, w, rfl⟩
          · obtain ⟨rfl, huv⟩ := List.append_inj' hsplit rfl
            cases huv
            exact hturn
          · rw [← List.cons_append, ← List.append_assoc] at hsplit
            exact hgood before u after (List.append_inj' hsplit rfl).1
        · rw [hstage]
          exact replaceAll_stage hv (hturn.isWhole hv)
      · refine .inr ⟨⟨done, v, [], rfl, hturn⟩, ?_⟩
        rw [hstage]
        apply scarred_spaced hv
        exact fun hwhole =>
          hturn (isUndisturbed_of_isWhole hv (fun d hd => hmem (List.mem_append_left _ hd)) hwhole)
    · refine .inr ⟨⟨before, u, after ++ [v], by simp, hbad⟩, hscar.replaceAll hv⟩

theorem replaceEach_filter_cases (ts : List Token) (kind : EntityKind) :
    IsInTurn ts kind ∧
        replaceEach kind (ts.filter (isOfKind kind)) (spaced (Token.shown (passed kind)) ts) =
          spaced (Token.shown (passed kind ++ [kind])) ts ∨
      ¬ IsInTurn ts kind ∧
        Scarred (replaceEach kind (ts.filter (isOfKind kind))
          (spaced (Token.shown (passed kind)) ts)) := by
  rw [← stage_nil]
  rcases replaceEach_cases (List.append_nil (ts.filter (isOfKind kind))).symm with
    ⟨hgood, hstage⟩ | ⟨⟨done, v, later, hsplit, hbad⟩, hscar⟩
  · exact .inl ⟨hgood, hstage.trans (spaced_congr fun t ht => stage_filter ht)⟩
  · exact .inr ⟨fun hturn => hbad (hturn done v later hsplit), hscar⟩

end Turns

section Kinds
variable {kind : EntityKind} {before after : List EntityKind} {ts vs : List Token}
  {text : List Char}

theorem Scarred.replaceEach (h : Scarred text) (hvs : ∀ v ∈ vs, isOfKind kind v = true) :
    Scarred (replaceEach kind vs text) := by
  induction vs generalizing text with
  | nil => exact h
  | cons v vs ih =>
    exact ih (h.replaceAll (hvs v List.mem_cons_self)) fun u hu => hvs u (List.mem_cons_of_mem v hu)

theorem passed_eq_takeWhile (kind : EntityKind) :
    passed kind = EntityKind.liftOrder.takeWhile (· != kind) := by
  cases kind <;> rfl

theorem passed_of_split (h : before ++ kind :: after = EntityKind.liftOrder) :
    passed kind = before := by
  have hnodup : (before ++ kind :: after).Nodup := by
    rw [h]
    decide
  have hbefore : ∀ other ∈ before, (other != kind) = true := by
    intro other hother
    refine bne_iff_ne.mpr ?_
    exact (List.nodup_append.mp hnodup).2.2 other hother kind List.mem_cons_self
  rw [passed_eq_takeWhile, ← h, List.takeWhile_append_of_pos hbefore,
    List.takeWhile_cons_of_neg (by simp), List.append_nil]

def replaceKinds (ts : List Token) (kinds : List EntityKind) (text : List Char) : List Char :=
  kinds.foldl (fun text kind => replaceEach kind (ts.filter (isOfKind kind)) text) text

/-- The kinds so far were replaced by their placeholders, or there is a scar. -/
theorem replaceKinds_cases (ts : List Token) (h : before ++ after = EntityKind.liftOrder) :
    (∀ kind ∈ before, IsInTurn ts kind) ∧
        replaceKinds ts before (spaced (Token.shown []) ts) = spaced (Token.shown before) ts ∨
      (∃ kind ∈ before, ¬ IsInTurn ts kind) ∧
        Scarred (replaceKinds ts before (spaced (Token.shown []) ts)) := by
  induction before using List.reverseRecOn generalizing after with
  | nil => exact .inl ⟨nofun, rfl⟩
  | append_singleton before kind ih =>
    rw [List.append_assoc] at h
    have hconcat : replaceKinds ts (before ++ [kind]) (spaced (Token.shown []) ts) =
        replaceEach kind (ts.filter (isOfKind kind))
          (replaceKinds ts before (spaced (Token.shown []) ts)) := by
      rw [replaceKinds, List.foldl_append]
      rfl
    rw [hconcat]
    rcases ih h with ⟨hgood, hshown⟩ | ⟨⟨other, hother, hbad⟩, hscar⟩
    · have hkind := replaceEach_filter_cases ts kind
      rw [passed_of_split h] at hkind
      rw [hshown]
      rcases hkind with ⟨hturn, hall⟩ | ⟨hturn, hscar⟩
      · refine .inl ⟨fun other hother => ?_, hall⟩
        rcases List.mem_append.mp hother with hother | hother
        · exact hgood other hother
        · rw [List.mem_singleton.mp hother]
          exact hturn
      · exact .inr ⟨⟨kind, List.mem_append_right _ List.mem_cons_self, hturn⟩, hscar⟩
    · refine .inr ⟨⟨other, List.mem_append_left _ hother, hbad⟩, hscar.replaceEach fun v hv => ?_⟩
      exact (List.mem_filter.mp hv).2

theorem replaceKnown_entities (ts : List Token) (action : String) :
    replaceKnown (entities ts) action =
      String.ofList (replaceKinds ts EntityKind.liftOrder action.toList) := by
  rw [replaceKnown, List.foldl_flatMap]
  congr 2
  funext text kind
  rw [entities, EntityTexts.get_ofFn, List.map_map, List.foldl_map]
  refine List.foldl_ext _ _ text fun text v hv => ?_
  have hneedle := grounded_entityChars (List.mem_filter.mp hv).2
  have hne : (kind.grounded (String.ofList v.entityChars)).isEmpty = false := by
    rw [← Bool.not_eq_true, String.isEmpty_iff]
    rintro hempty
    rw [hempty] at hneedle
    exact chars_ne_nil v hneedle.symm
  simp only [Function.comp_apply, hne, Bool.false_eq_true, if_false, hneedle]

end Kinds

theorem replaceKnown_text_iff (ts : List Token) :
    replaceKnown (entities ts) (text ts) = template ts ↔ ∀ kind, IsInTurn ts kind := by
  have htemplate : (template ts).toList = spaced (Token.shown EntityKind.liftOrder) ts := by
    rw [template, toList_render, funext shown_liftOrder]
  rw [replaceKnown_entities, text, toList_render]
  rcases replaceKinds_cases ts (List.append_nil EntityKind.liftOrder) with
    ⟨hgood, hshown⟩ | ⟨⟨kind, -, hbad⟩, hscar⟩
  · rw [hshown, ← htemplate, String.ofList_toList]
    exact ⟨fun _ kind => hgood kind kind.mem_liftOrder, fun _ => rfl⟩
  · refine ⟨fun heq => ?_, fun hturn => absurd (hturn kind) hbad⟩
    have hlist := congrArg String.toList heq
    rw [String.toList_ofList, htemplate, funext shown_liftOrder] at hlist
    rw [hlist] at hscar
    exact absurd hscar (not_scarred_template ts)

/-- The template of a phrase and its entity texts combine to the phrase, and replacing the entities
in it gives the template back exactly if each of them is undisturbed when its turn comes. -/
theorem replaceKnown_grounded_iff (ts : List Token) :
    ∃ c, recombine (template ts) (entities ts) = .ok c ∧
      (replaceKnown (entities ts) c.grounded = template ts ↔ ∀ kind, IsInTurn ts kind) := by
  refine ⟨_, if_pos (counts_template ts), ?_⟩
  show replaceKnown (entities ts) (String.ofList (Grounding.substitute _ _ _)) = _ ↔ _
  rw [grounded_template]
  exact replaceKnown_text_iff ts

def oneAndTwelve : List Token :=
  [.word (.ofText "SHOW" (by decide)), .number ⟨false, .ofText "1" (by decide), none⟩,
    .word (.ofText "AND" (by decide)), .number ⟨false, .ofText "12" (by decide), none⟩]

/-- The first number is replaced in the second one too. -/
theorem replaceKnown_grounded_number :
    ∃ c, recombine (template oneAndTwelve) (entities oneAndTwelve) = .ok c ∧
      c.grounded = "SHOW 1 AND 12" ∧ template oneAndTwelve = "SHOW <number> AND <number>" ∧
      replaceKnown (entities oneAndTwelve) c.grounded = "SHOW <number> AND <number>2" := by
  refine ⟨_, if_pos (counts_template oneAndTwelve), ?_⟩
  decide +kernel

end TablePhrase.Phrase

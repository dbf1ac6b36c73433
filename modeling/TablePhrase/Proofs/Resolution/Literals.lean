import TablePhrase.Proofs.Phrase.Grounding
import TablePhrase.Proofs.Phrase.Pattern
import TablePhrase.Proofs.Resolution.Independence

/-!
What becomes of the values that are written out in a template. They are taken behind the values of
the utterance, and all of them fill the template from left to right. So they keep their places where
no slot stands behind a literal; elsewhere the values of the utterance get these places.
-/

namespace TablePhrase

theorem EntityTexts.ofKind_append (kind : EntityKind) (found more : List String) :
    ofKind kind found ++ ofKind kind more = ofKind kind (found ++ more) := by
  apply ext_get
  intro k
  rw [get_append, ofKind, ofKind, ofKind, get_ofFn, get_ofFn, get_ofFn]
  split <;> rfl

namespace Pattern

open EntityKind (beginsOnce_placeholder placeholder_ne_nil placeholder_toList)
open Lifting Phrase Text

/-- The part takes a text: it is a slot or a literal. -/
def Part.isGap : Part → Bool
  | word _ => false
  | _ => true

/-- The parts with texts in the gaps, from left to right and each in double quotes. Gaps without a
text are left open. -/
def put : List String → List Part → List String
  | _, [] => []
  | texts, .word run :: ps => String.ofList run.chars :: put texts ps
  | [], p :: ps => String.ofList p.lifted :: put [] ps
  | text :: texts, _ :: ps => EntityKind.value.grounded text :: put texts ps

def filled (texts : List String) (parts : List Part) : String :=
  join " " (put texts parts)

def putInSlots : List String → List Part → List String
  | _, [] => []
  | value :: values, .slot _ :: ps => EntityKind.value.grounded value :: putInSlots values ps
  | values, p :: ps => String.ofList p.chars :: putInSlots values ps

/-- The template with values in its slots and its literals in their places. -/
def kept (values : List String) (parts : List Part) : String :=
  join " " (putInSlots values parts)

/-- No slot stands behind a literal. -/
def SlotsFirst (parts : List Part) : Prop :=
  parts.Pairwise fun p q => p.isLiteral = true → q.isSlot = false

instance (parts : List Part) : Decidable (SlotsFirst parts) :=
  inferInstanceAs (Decidable (parts.Pairwise _))

def TakesValues (parts : List Part) : Prop :=
  ∀ kind, .slot kind ∈ parts → kind = .value

theorem TakesValues.of_cons {p : Part} {ps : List Part} (h : TakesValues (p :: ps)) :
    TakesValues ps :=
  fun kind hmem => h kind (List.mem_cons_of_mem p hmem)

section Parts
variable {p : Part} {ps parts : List Part} {texts values : List String}

theorem exists_eq_word (hgap : p.isGap = false) : ∃ run, p = .word run := by
  cases p <;> cases hgap
  exact ⟨_, rfl⟩

theorem lifted_of_isGap (hgap : p.isGap = true) (h : TakesValues (p :: ps)) :
    p.lifted = EntityKind.value.placeholder.toList := by
  cases p with
  | word run => cases hgap
  | slot kind => rw [h kind List.mem_cons_self]; rfl
  | literal letters => rfl

theorem put_word (texts : List String) (run : Run Unicode.isAlphabetic) (ps : List Part) :
    put texts (.word run :: ps) = String.ofList run.chars :: put texts ps := by
  cases texts <;> rfl

theorem putInSlots_word (values : List String) (run : Run Unicode.isAlphabetic)
    (ps : List Part) :
    putInSlots values (.word run :: ps) = String.ofList run.chars :: putInSlots values ps := by
  cases values <;> rfl

theorem put_nil (parts : List Part) :
    put [] parts = parts.map fun p => String.ofList p.lifted := by
  induction parts with
  | nil => rfl
  | cons p ps ih =>
    rw [List.map_cons, ← ih]
    cases p <;> rfl

theorem put_cons_of_isGap (hgap : p.isGap = true) (text : String) (texts : List String)
    (ps : List Part) :
    put (text :: texts) (p :: ps) = EntityKind.value.grounded text :: put texts ps := by
  cases p with
  | word run => cases hgap
  | slot kind => rfl
  | literal letters => rfl

theorem length_literals (parts : List Part) :
    (literals parts).length = parts.countP Part.isLiteral := by
  rw [literals, List.length_filterMap_eq_countP]
  rfl

theorem countP_isGap (parts : List Part) :
    parts.countP Part.isGap = parts.countP Part.isSlot + parts.countP Part.isLiteral := by
  induction parts with
  | nil => rfl
  | cons p ps ih =>
    rw [List.countP_cons, List.countP_cons, List.countP_cons, ih]
    cases p with
    | word run => rfl
    | slot kind => exact Nat.add_right_comm _ _ 1
    | literal letters => exact Nat.add_assoc _ _ 1

theorem grounded_value (letters : List Char) :
    EntityKind.value.grounded (String.ofList letters) = String.ofList (inQuotes letters) := by
  apply String.toList_injective
  simp [EntityKind.grounded, inQuotes]

theorem put_append_literals (h : SlotsFirst parts)
    (hcount : values.length = parts.countP Part.isSlot) :
    put (values ++ literals parts) parts = putInSlots values parts := by
  induction parts generalizing values with
  | nil => cases values <;> rfl
  | cons p ps ih =>
    obtain ⟨hfirst, hrest⟩ := List.pairwise_cons.mp h
    rw [List.countP_cons] at hcount
    cases p with
    | word run =>
      have hvalues : values.length = ps.countP Part.isSlot := hcount
      rw [putInSlots_word, ← ih hrest hvalues]
      exact put_word _ run ps
    | slot kind =>
      cases values with
      | nil => cases hcount
      | cons value values =>
        have hvalues : values.length = ps.countP Part.isSlot := Nat.succ.inj hcount
        exact congrArg (EntityKind.value.grounded value :: ·) (ih hrest hvalues)
    | literal letters =>
      -- behind a literal there are no slots, so all values have found their places
      have hslots : ps.countP Part.isSlot = 0 := by
        rw [List.countP_eq_zero]
        exact fun q hq => Bool.eq_false_iff.mp (hfirst q hq rfl)
      have hnone : values = [] := List.length_eq_zero_iff.mp (hcount.trans hslots)
      subst hnone
      have hliterals : put ([] ++ literals ps) ps = putInSlots [] ps := ih hrest hslots.symm
      show EntityKind.value.grounded (String.ofList letters.chars) :: put (literals ps) ps =
        String.ofList (inQuotes letters.chars) :: putInSlots [] ps
      rw [grounded_value, ← hliterals]
      rfl

end Parts

section Grounding
variable {front : List Char} {texts : List String} {parts : List Part}

abbrev valueSlot : List Char :=
  EntityKind.value.placeholder.toList

theorem not_infix_nil : ¬ valueSlot <:+: [] := by
  rw [List.infix_nil]
  exact placeholder_ne_nil .value

theorem not_infix_append_space {piece : List Char} (hfront : ¬ valueSlot <:+: front)
    (hpiece : ¬ valueSlot <:+: piece) : ¬ valueSlot <:+: front ++ ' ' :: piece := by
  rw [infix_append_cons_iff (by decide)]
  exact not_or.mpr ⟨hfront, hpiece⟩

theorem not_infix_grounded {text : String} (h : ¬ valueSlot <:+: text.toList) :
    ¬ valueSlot <:+: (EntityKind.value.grounded text).toList := by
  have hquotes : (EntityKind.value.grounded text).toList =
      [] ++ '"' :: (text.toList ++ '"' :: []) := by
    simp [EntityKind.grounded]
  rw [hquotes, infix_append_cons_iff (by decide), infix_append_cons_iff (by decide)]
  exact not_or.mpr ⟨not_infix_nil, not_or.mpr ⟨h, not_infix_nil⟩⟩

theorem not_infix_word (run : Run Unicode.isAlphabetic) : ¬ valueSlot <:+: run.chars := by
  intro h
  have hopen : '<' ∈ run.chars := h.subset (by decide)
  exact not_mem_marks hopen (by decide)

theorem groundKind_nil_trailing (front : List Char) (parts : List Part) :
    groundKind .value [] (front ++ trailing Part.lifted parts) =
      front ++ trailing String.toList (put [] parts) := by
  rw [put_nil]
  simp [groundKind, trailing, List.flatMap_map]

theorem groundKind_cons_gap {p : Part} {ps : List Part} (hgap : p.isGap = true)
    (hvalues : TakesValues (p :: ps)) (hfront : ¬ valueSlot <:+: front) (text : String)
    (texts : List String) :
    groundKind .value (text :: texts) (front ++ trailing Part.lifted (p :: ps)) =
      groundKind .value texts
        (front ++ ' ' :: (EntityKind.value.grounded text).toList ++ trailing Part.lifted ps) := by
  have hreplace := replaceFirst_append_of_not_infix (beginsOnce_placeholder .value)
    (not_infix_append_space hfront not_infix_nil) (EntityKind.value.grounded text).toList
    (trailing Part.lifted ps)
  rw [List.append_assoc, List.append_assoc] at hreplace
  rw [trailing_cons, lifted_of_isGap hgap hvalues, groundKind, List.foldl_cons, List.append_assoc]
  exact congrArg (groundKind .value texts) hreplace

theorem groundKind_trailing_lifted (hvalues : TakesValues parts)
    (hcount : texts.length ≤ parts.countP Part.isGap)
    (hclear : ∀ text ∈ texts.dropLast, ¬ valueSlot <:+: text.toList)
    (hfront : ¬ valueSlot <:+: front) :
    groundKind .value texts (front ++ trailing Part.lifted parts) =
      front ++ trailing String.toList (put texts parts) := by
  induction parts generalizing front texts with
  | nil =>
    have hnone : texts = [] := List.length_eq_zero_iff.mp (Nat.le_zero.mp hcount)
    rw [hnone]
    exact groundKind_nil_trailing front []
  | cons p ps ih =>
    cases hgap : p.isGap with
    | false =>
      obtain ⟨run, rfl⟩ := exists_eq_word hgap
      rw [put_word, append_trailing_cons, append_trailing_cons, String.toList_ofList]
      exact ih hvalues.of_cons hcount hclear (not_infix_append_space hfront (not_infix_word run))
    | true =>
      rw [List.countP_cons_of_pos hgap] at hcount
      cases texts with
      | nil => exact groundKind_nil_trailing front (p :: ps)
      | cons text texts =>
        rw [put_cons_of_isGap hgap, groundKind_cons_gap hgap hvalues hfront, append_trailing_cons]
        cases texts with
        -- no slot is looked for behind the last text, so that it may hold one
        | nil => exact groundKind_nil_trailing _ ps
        | cons next texts =>
          have htext : ¬ valueSlot <:+: text.toList := hclear text List.mem_cons_self
          have hothers : ∀ other ∈ (next :: texts).dropLast, ¬ valueSlot <:+: other.toList :=
            fun other hother => hclear other (List.mem_cons_of_mem text hother)
          exact ih hvalues.of_cons (Nat.le_of_succ_le_succ hcount) hothers
            (not_infix_append_space hfront (not_infix_grounded htext))

theorem groundKind_space (kind : EntityKind) (texts : List String) (action : List Char) :
    groundKind kind texts (' ' :: action) = ' ' :: groundKind kind texts action := by
  induction texts generalizing action with
  | nil => rfl
  | cons text texts ih =>
    have havoids : Avoids kind.placeholder.toList [' '] action :=
      EntityKind.avoids_placeholder_of_not_mem kind (by decide) action
    have hreplace := replaceFirst_append_of_avoids havoids (kind.grounded text).toList
    rw [groundKind, List.foldl_cons]
    exact (congrArg (groundKind kind texts) hreplace).trans (ih _)

theorem toList_filled (texts : List String) (parts : List Part) :
    (filled texts parts).toList = spaced String.toList (put texts parts) := by
  rw [filled, ← toList_join_space]
  simp

theorem substitute_template (hvalues : TakesValues parts)
    (hcount : texts.length = parts.countP Part.isGap)
    (hclear : ∀ text ∈ texts.dropLast, ¬ valueSlot <:+: text.toList) :
    String.ofList (Grounding.substitute Grounding.groundedText
      (EntityTexts.ofKind .value texts).items (template parts).toList) = filled texts parts := by
  have hground : groundKind .value texts (spaced Part.lifted parts) =
      spaced String.toList (put texts parts) := by
    have htrailing : groundKind .value texts ([] ++ trailing Part.lifted parts) =
        [] ++ trailing String.toList (put texts parts) :=
      groundKind_trailing_lifted hvalues (Nat.le_of_eq hcount) hclear not_infix_nil
    rw [List.nil_append, List.nil_append] at htrailing
    rw [← tail_trailing String.toList, ← htrailing]
    cases parts with
    | nil =>
      have hnone : texts = [] := List.length_eq_zero_iff.mp hcount
      rw [hnone]
      rfl
    | cons p ps =>
      rw [trailing_cons, groundKind_space]
      rfl
  apply String.toList_injective
  rw [String.toList_ofList, substitute_eq_foldl, template, toList_join_space, toList_filled,
    ← hground]
  rfl

theorem count_trailing_lifted (hvalues : TakesValues parts) (kind : EntityKind) :
    count kind.placeholder.toList (trailing Part.lifted parts) =
      if kind = .value then parts.countP Part.isGap else 0 := by
  induction parts with
  | nil => simp [trailing, count]
  | cons p ps ih =>
    have hspace : Avoids kind.placeholder.toList [' '] (p.lifted ++ trailing Part.lifted ps) :=
      EntityKind.avoids_placeholder_of_not_mem kind (by decide) _
    rw [trailing_cons, ← List.singleton_append, count_append_of_avoids hspace, List.countP_cons]
    cases hgap : p.isGap with
    | false =>
      obtain ⟨run, rfl⟩ := exists_eq_word hgap
      have hrun : Avoids kind.placeholder.toList run.chars (trailing Part.lifted ps) :=
        EntityKind.avoids_placeholder_of_not_mem kind
          (fun hmem => not_mem_marks hmem (by decide)) _
      exact (count_append_of_avoids hrun).trans (ih hvalues.of_cons)
    | true =>
      rw [lifted_of_isGap hgap hvalues, EntityKind.count_placeholder_append, ih hvalues.of_cons]
      split <;> simp [Nat.add_comm]

theorem counts_template_eq (hvalues : TakesValues parts)
    (hcount : texts.length = parts.countP Part.isGap) :
    EntityCounts.ofTemplate (template parts) = (EntityTexts.ofKind .value texts).counts := by
  apply EntityCounts.ext_get
  intro kind
  have hspaced : count kind.placeholder.toList (spaced Part.lifted parts) =
      count kind.placeholder.toList (trailing Part.lifted parts) := by
    cases parts with
    | nil => rfl
    | cons p ps =>
      have hspace : Avoids kind.placeholder.toList [' '] (spaced Part.lifted (p :: ps)) :=
        EntityKind.avoids_placeholder_of_not_mem kind (by decide) _
      exact (count_append_of_avoids hspace).symm
  rw [EntityCounts.ofTemplate, EntityCounts.get_ofFn, template, toList_join_space, hspaced,
    count_trailing_lifted hvalues, EntityTexts.counts, EntityCounts.get_ofFn, EntityTexts.ofKind,
    EntityTexts.get_ofFn, ← hcount]
  split <;> rfl

end Grounding

section Columns
variable {needle front : List Char}

theorem infix_append_valueSlot (hopen : '<' ∉ needle) (hclose : '>' ∉ needle)
    (hname : ¬ needle <:+: EntityKind.value.name.toList) {back : List Char}
    (h : needle <:+: front ++ (valueSlot ++ back)) : needle <:+: front ∨ needle <:+: back := by
  rw [valueSlot, placeholder_toList, List.cons_append, infix_append_cons_iff hopen,
    List.append_assoc, List.singleton_append, infix_append_cons_iff hclose] at h
  exact h.imp_right (·.resolve_left hname)

theorem infix_trailing_chars (hopen : '<' ∉ needle) (hclose : '>' ∉ needle)
    (hname : ¬ needle <:+: EntityKind.value.name.toList) {parts : List Part}
    (h : needle <:+: front ++ trailing Part.lifted parts) :
    needle <:+: front ++ trailing Part.chars parts := by
  induction parts generalizing front with
  | nil => exact h
  | cons p ps ih =>
    rw [append_trailing_cons] at h ⊢
    cases p with
    | word run => exact ih h
    | slot kind => exact ih h
    | literal letters =>
      have hparts : needle <:+: front ++ [' '] ∨ needle <:+: trailing Part.lifted ps := by
        apply infix_append_valueSlot hopen hclose hname
        rwa [← List.append_assoc, List.append_assoc front]
      rcases hparts with hfront | hback
      · rw [List.append_cons, List.append_assoc (front ++ [' '])]
        exact hfront.trans (List.prefix_append _ _).isInfix
      · have hrest : needle <:+: [] ++ trailing Part.chars ps := ih hback
        exact hrest.trans (List.suffix_append _ _).isInfix

theorem not_occurs_template {parts : List Part}
    (h : occurs "ON COLUMN".toList (text parts).toList = false) :
    occurs "ON COLUMN".toList (template parts).toList = false := by
  rw [← Bool.not_eq_true, occurs_iff_infix, text, toList_join_space] at h
  rw [← Bool.not_eq_true, occurs_iff_infix, template, toList_join_space]
  intro hlifted
  apply h
  cases parts with
  | nil => exact hlifted
  | cons p ps =>
    -- the induction is on parts with a space in front of each, the first one too
    have htrailing : "ON COLUMN".toList <:+: trailing Part.lifted (p :: ps) :=
      hlifted.trans (List.suffix_cons ' ' _).isInfix
    have hchars : "ON COLUMN".toList <:+: [] ++ trailing Part.chars (p :: ps) :=
      infix_trailing_chars (by decide) (by decide) (by decide) htrailing
    rcases List.infix_cons_iff.mp hchars with hstarts | hchars
    · exact absurd (List.cons_prefix_cons.mp hstarts).1 (by decide)
    · exact hchars

end Columns
end Pattern

namespace Candidate

open Pattern (IsLiftable Part SlotsFirst TakesValues filled kept literals valueSlot)

variable {c : Candidate} {parts : List Part} {utterance : String} {values : List String}

theorem form_of_text (htemplate : c.template = Pattern.text parts) (hliftable : IsLiftable parts) :
    c.form = Pattern.template parts := by
  rw [form, htemplate, Pattern.lift_pattern hliftable]

theorem textsFor_of_text (htemplate : c.template = Pattern.text parts) (hliftable : IsLiftable parts)
    (hcolumn : Text.occurs "ON COLUMN".toList c.template.toList = false) (workspace : Workspace) :
    textsFor workspace (.ofKind .value values) c =
      .ofKind .value (values ++ literals parts) := by
  have hform : Text.occurs "ON COLUMN".toList c.form.toList = false := by
    rw [form_of_text htemplate hliftable]
    exact Pattern.not_occurs_template (htemplate ▸ hcolumn)
  rw [textsFor_of_not_occurs hform, htemplate, Pattern.lift_pattern hliftable]
  exact EntityTexts.ofKind_append _ _ _

theorem combination_of_mem_resolved {settings : Settings} {candidates : List Candidate}
    {workspace : Workspace} {resolved : List ResolvedCandidate} {r : ResolvedCandidate}
    (hresolve : resolve settings utterance candidates workspace = .candidates resolved)
    (hr : r ∈ resolved)
    (honly : ∀ other ∈ candidates, other.utterance = r.trainingUtterance → other = c) :
    r.combination = .ofTexts c.form (textsFor workspace (lift utterance).entities c) := by
  obtain ⟨i, -, rfl⟩ := exists_of_mem_resolved hresolve hr
  have hcandidate : candidates.get i = c := honly _ (List.get_mem candidates i) rfl
  rw [← hcandidate]
  rfl

/-- A candidate whose template has words, slots for values and literals, but does not speak of a
column, is grounded with the values of the utterance: they and the values that are written out fill
the template from left to right, in this order. If no slot stands behind a literal, every literal
keeps its place. That is as long as no text but the last holds a placeholder itself. -/
theorem ground_pattern (htemplate : c.template = Pattern.text parts)
    (hcolumn : Text.occurs "ON COLUMN".toList c.template.toList = false)
    (hvalues : TakesValues parts) (hliftable : IsLiftable parts)
    (hspoken : (lift utterance).entities = .ofKind .value values)
    (hcount : values.length = parts.countP Part.isSlot)
    (hclear : ∀ value ∈ (values ++ literals parts).dropLast, ¬ valueSlot <:+: value.toList)
    (workspace : Workspace) :
    ∃ g, c.ground? workspace (lift utterance).entities = some g ∧ g.template = Pattern.template parts ∧
      g.combination.grounded = filled (values ++ literals parts) parts ∧
      (SlotsFirst parts → g.combination.grounded = kept values parts) ∧
      ∀ settings candidates resolved,
        resolve settings utterance candidates workspace = .candidates resolved →
          ∀ r ∈ resolved,
            (∀ other ∈ candidates, other.utterance = r.trainingUtterance → other = c) →
              r.combination = g.combination := by
  have hform := form_of_text htemplate hliftable
  have htexts : textsFor workspace (.ofKind .value values) c =
      .ofKind .value (values ++ literals parts) :=
    textsFor_of_text htemplate hliftable hcolumn workspace
  have hgaps : (values ++ literals parts).length = parts.countP Part.isGap := by
    rw [List.length_append, Pattern.length_literals, Pattern.countP_isGap, hcount]
  have hgroundable : IsGroundable (.ofKind .value values) c := by
    rw [isGroundable_iff workspace, htexts, hform]
    exact Pattern.counts_template_eq hvalues hgaps
  have hfilled := Pattern.substitute_template hvalues hgaps hclear
  refine ⟨⟨c, c.form, .ofTexts c.form (textsFor workspace (.ofKind .value values) c)⟩, ?_, hform,
    ?_, ?_, ?_⟩
  · rw [hspoken, ground?_eq, if_pos hgroundable]
  · rw [htexts, hform]
    exact hfilled
  · intro hfirst
    rw [htexts, hform, kept, ← Pattern.put_append_literals hfirst hcount]
    exact hfilled
  · intro settings candidates resolved hresolve r hr honly
    rw [← hspoken]
    exact combination_of_mem_resolved hresolve hr honly

theorem ground_rename_to_literal :
    let parts : List Part :=
      [.word (.ofText "RENAME" rfl), .slot .value, .word (.ofText "TO" rfl),
        .literal (.ofText "new" rfl)]
    let c : Candidate := ⟨"rename it", "RENAME <value> TO \"new\"", .ofQuotient false 9 10⟩
    let utterance := "rename \"old\" as agreed"
    (TakesValues parts ∧ IsLiftable parts ∧ SlotsFirst parts ∧
      (lift utterance).entities = .ofKind .value ["old"]) ∧
    ∃ r, resolve .standard utterance [c] .empty = .candidates [r] ∧
      r.combination.grounded = kept ["old"] parts ∧
      kept ["old"] parts = "RENAME \"old\" TO \"new\"" := by
  intro parts c utterance
  have hvalues : TakesValues parts := by
    intro kind hslot
    simpa [parts] using hslot
  have hliftable : IsLiftable parts := by decide
  have hfirst : SlotsFirst parts := by decide
  have hspoken : (lift utterance).entities = .ofKind .value ["old"] := by decide +kernel
  have hselected : selected .standard (lift utterance).entities [c] = [⟨0, by decide⟩] := by
    decide +kernel
  have hresolve := resolve_of_selected_singleton hselected .empty
  obtain ⟨g, -, -, -, hkept, hoffered⟩ :=
    ground_pattern (by decide +kernel : c.template = Pattern.text parts) (by decide) hvalues
      hliftable hspoken rfl (by decide) .empty
  refine ⟨⟨hvalues, hliftable, hfirst, hspoken⟩, _, hresolve, ?_, by decide +kernel⟩
  have honly : ∀ other ∈ [c], other.utterance = c.utterance → other = c :=
    fun other hother _ => List.mem_singleton.mp hother
  rw [hoffered _ _ _ hresolve _ List.mem_cons_self honly]
  exact hkept hfirst

/-- A literal in front of the slot takes the value of the utterance. -/
theorem ground_swaps_literal :
    let parts : List Part :=
      [.word (.ofText "RENAME" rfl), .literal (.ofText "old" rfl), .word (.ofText "TO" rfl),
        .slot .value]
    let c : Candidate := ⟨"rename it", "RENAME \"old\" TO <value>", .ofQuotient false 9 10⟩
    let utterance := "rename it to \"new\""
    (c.template = Pattern.text parts ∧ Text.occurs "ON COLUMN".toList c.template.toList = false ∧
      TakesValues parts ∧ parts.IsChain (fun p q => p.isGap = true → q.isGap = false) ∧
      (lift utterance).entities = .ofKind .value ["new"] ∧
      ["new"].length = parts.countP Part.isSlot) ∧
    ∃ r, resolve .standard utterance [c] .empty = .candidates [r] ∧
      r.combination.grounded = "RENAME \"new\" TO \"old\"" ∧
      kept ["new"] parts = "RENAME \"old\" TO \"new\"" ∧
      r.combination.grounded ≠ kept ["new"] parts := by
  intro parts c utterance
  have hvalues : TakesValues parts := by
    intro kind hslot
    simpa [parts] using hslot
  have hselected : selected .standard (lift utterance).entities [c] = [⟨0, by decide⟩] := by
    decide +kernel
  have hresolve := resolve_of_selected_singleton hselected .empty
  have hgrounded : (offerAt .empty utterance [c] ⟨0, by decide⟩).combination.grounded =
      "RENAME \"new\" TO \"old\"" := by decide +kernel
  have hkept : kept ["new"] parts = "RENAME \"old\" TO \"new\"" := by decide +kernel
  refine ⟨⟨by decide +kernel, by decide, hvalues, by decide, by decide +kernel, rfl⟩, _, hresolve,
    hgrounded, hkept, ?_⟩
  rw [hkept]
  exact fun h => absurd (hgrounded.symm.trans h) (by decide)

end Candidate
end TablePhrase

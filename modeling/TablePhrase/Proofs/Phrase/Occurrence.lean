import Mathlib.Data.List.Chain
import TablePhrase.Proofs.Phrase.Grounding
import TablePhrase.Proofs.Text.Replacement

/-!
Where the text of an entity begins inside another token. It does so in tokens of its own kind only,
apart from conditions, which may begin in a placeholder; and what it takes from there is never all
that stands between two spaces.
-/

namespace TablePhrase.Phrase

open Text
open Lifting (isOperator isNumeric)

/-- A text that what follows does not begin a word or a list behind. -/
def LeavesOff (front : List Char) : Prop :=
  (∃ c ∈ front.getLast?, c ≠ ' ') ∨ [',', ' '] <:+ front

/-- What stands between the two texts is a part of a token only. -/
def Cuts (front after : List Char) : Prop :=
  ¬ AtBreak after ∨ LeavesOff front

section Listed
variable {text needle front back rest after : List Char}

/-- Every space has a comma before it. -/
def IsListed (text : List Char) : Prop :=
  text.IsChain fun c d => d = ' ' → c = ','

theorem isListed_of_not_mem (h : ' ' ∉ text) : IsListed text := by
  induction text with
  | nil => exact .nil
  | cons c text ih =>
    obtain ⟨-, htext⟩ := not_or.mp (List.mem_cons.not.mp h)
    refine List.isChain_cons.mpr ⟨fun d hd hspace => ?_, ih htext⟩
    rw [hspace] at hd
    exact absurd (List.mem_of_head? hd) htext

theorem IsListed.eq_comma {c : Char} (h : IsListed (front ++ ' ' :: back))
    (hc : c ∈ front.getLast?) : c = ',' :=
  (List.isChain_append.mp h).2.2 c hc ' ' rfl rfl

theorem IsListed.exists_eq_append (h : IsListed needle) (htext : back ++ rest = needle ++ after)
    (hrest : AtBreak rest) (hne : back ≠ []) (hlast : ',' ∉ back.getLast?) :
    ∃ more, back = needle ++ more ∧ after = more ++ rest := by
  rcases List.append_eq_append_iff.mp htext with ⟨more, hneedle, hmore⟩ | ⟨more, hback, hafter⟩
  · cases more with
    | nil => exact ⟨[], by simpa using hneedle.symm, by simpa using hmore.symm⟩
    | cons d more =>
      have hd : d = ' ' := hrest d (hmore ▸ rfl)
      subst hd hneedle
      have hback := List.getLast?_eq_some_getLast hne
      have hcomma : back.getLast hne = ',' := h.eq_comma hback
      exact absurd (hcomma ▸ hback) hlast
  · exact ⟨more, hback, hafter⟩

theorem IsListed.cuts (h : IsListed (front ++ (needle ++ back))) (hne : needle ≠ [])
    (hhead : ' ' ∉ (front ++ (needle ++ back)).head?) (hlast : ',' ∉ needle.getLast?)
    (rest : List Char) :
    front ++ (needle ++ back) = needle ∨ Cuts front (back ++ rest) := by
  cases back with
  | cons d back =>
    refine .inr (.inl (not_atBreak_cons ?_ (back ++ rest)))
    rintro rfl
    have hneedle := List.getLast?_eq_some_getLast hne
    have hlisted := (List.isChain_append.mp h).2.1
    have hcomma : needle.getLast hne = ',' := IsListed.eq_comma hlisted hneedle
    exact hlast (hcomma ▸ hneedle)
  | nil =>
    rcases List.eq_nil_or_concat' front with rfl | ⟨front, c, rfl⟩
    · exact .inl (by rw [List.nil_append, List.append_nil])
    · refine .inr (.inr ?_)
      by_cases hc : c = ' '
      · subst hc
        rcases List.eq_nil_or_concat' front with rfl | ⟨front, d, rfl⟩
        · exact absurd rfl hhead
        · rw [List.append_assoc] at h
          have hcomma : d = ',' := h.eq_comma (by simp)
          exact .inr ⟨front, by rw [hcomma, List.append_assoc]; rfl⟩
      · exact .inl ⟨c, by simp, hc⟩

end Listed

section Numbers
variable {back rest after : List Char}

theorem Numeral.isNumeric {n : Numeral} {c : Char} (h : c ∈ n.chars) : isNumeric c = true := by
  rcases Numeral.mem_chars h with rfl | rfl | h
  · rfl
  · rfl
  · exact Lifting.isNumeric_of_isDigit h

theorem Numeral.isListed (n : Numeral) : IsListed n.chars := by
  apply isListed_of_not_mem
  intro hmem
  cases Numeral.isNumeric hmem

def listed (n : Numeral) (more : List Numeral) : List Char :=
  n.chars ++ more.flatMap ([',', ' '] ++ Numeral.chars ·)

theorem listed_cons (n m : Numeral) (more : List Numeral) :
    listed n (m :: more) = n.chars ++ ',' :: ' ' :: listed m more := by
  simp [listed]

theorem listed_ne_nil (n : Numeral) (more : List Numeral) : listed n more ≠ [] :=
  List.append_ne_nil_of_left_ne_nil n.chars_ne_nil _

theorem isNumeric_head_listed (n : Numeral) (more : List Numeral) :
    ∀ c ∈ (listed n more).head?, isNumeric c = true := by
  obtain ⟨c, tail, hchars⟩ := List.exists_cons_of_ne_nil n.chars_ne_nil
  have hc : c ∈ n.chars := hchars ▸ List.mem_cons_self
  rw [listed, hchars]
  rintro d ⟨⟩
  exact Numeral.isNumeric hc

theorem isNumeric_last_listed (n : Numeral) (more : List Numeral) :
    ∀ c ∈ (listed n more).getLast?, isNumeric c = true := by
  induction more generalizing n with
  | nil =>
    intro c hc
    rw [listed, List.flatMap_nil, List.append_nil] at hc
    exact Numeral.isNumeric (List.mem_of_getLast? hc)
  | cons m more ih =>
    intro c hc
    have hne := List.exists_cons_of_ne_nil (listed_ne_nil m more)
    obtain ⟨d, tail, hlisted⟩ := hne
    rw [listed_cons, hlisted, List.getLast?_append_cons, List.getLast?_cons_cons,
      List.getLast?_cons_cons, ← hlisted] at hc
    exact ih m c hc

theorem isListed_listed (n : Numeral) (more : List Numeral) : IsListed (listed n more) := by
  induction more generalizing n with
  | nil => simpa [listed] using n.isListed
  | cons m more ih =>
    have hspace : IsListed (' ' :: listed m more) := by
      refine List.isChain_cons.mpr ⟨fun d hd hspace => ?_, ih m⟩
      cases hspace ▸ isNumeric_head_listed m more d hd
    have hcomma : IsListed (',' :: ' ' :: listed m more) :=
      List.isChain_cons.mpr ⟨fun _ _ _ => rfl, hspace⟩
    rw [listed_cons]
    refine List.isChain_append.mpr ⟨n.isListed, hcomma, ?_⟩
    rintro c - d ⟨⟩ hd
    cases hd

theorem cuts_of_listed {n m : Numeral} {ns ms : List Numeral} {front : List Char}
    (hpiece : listed m ms = front ++ back) (hne : back ≠ [])
    (htext : back ++ rest = listed n ns ++ after) (hrest : AtBreak rest) :
    listed n ns <:+: listed m ms ∧ (listed m ms = listed n ns ∨ Cuts front after) := by
  have hlast : ',' ∉ back.getLast? := by
    intro hcomma
    have hpieceLast : ',' ∈ (listed m ms).getLast? := by
      rw [hpiece, List.getLast?_append_of_ne_nil _ hne]
      exact hcomma
    cases isNumeric_last_listed m ms ',' hpieceLast
  obtain ⟨more, rfl, rfl⟩ := (isListed_listed n ns).exists_eq_append htext hrest hne hlast
  have hlisted := isListed_listed m ms
  have hhead : ' ' ∉ (listed m ms).head? := fun h => by cases isNumeric_head_listed m ms ' ' h
  have hneedle : ',' ∉ (listed n ns).getLast? := fun h => by cases isNumeric_last_listed n ns ',' h
  rw [hpiece] at hlisted hhead ⊢
  exact ⟨⟨front, more, List.append_assoc ..⟩, hlisted.cuts (listed_ne_nil n ns) hhead hneedle rest⟩

end Numbers

section Labels
variable {l k : Label} {ls ks : List Label} {front back rest after : List Char}

theorem Label.ext_chars (h : l.chars = k.chars) : l = k := by
  cases l
  cases k
  simpa using h

theorem Label.quote_not_mem (l : Label) : '"' ∉ l.chars :=
  fun h => Label.not_mem_marks h (by decide)

theorem Label.quoted_append_inj (h : l.quoted ++ after = k.quoted ++ rest) :
    l = k ∧ after = rest := by
  have hstop (text : List Char) : ∀ c ∈ ('"' :: text).head?, (c != '"') = false := by
    rintro c ⟨⟩
    rfl
  have hrun (l : Label) : ∀ c ∈ l.chars, (c != '"') = true := by
    intro c hc
    exact bne_iff_ne.mpr fun heq => l.quote_not_mem (heq ▸ hc)
  simp only [quoted, List.cons_append, List.append_assoc, List.nil_append, List.cons.injEq,
    true_and] at h
  have hchars := congrArg (List.takeWhile (· != '"')) h
  rw [takeWhile_append_of_stops (hrun l) (hstop after),
    takeWhile_append_of_stops (hrun k) (hstop rest)] at hchars
  rw [hchars] at h
  exact ⟨Label.ext_chars hchars, (List.cons.inj (List.append_cancel_left h)).2⟩

def moreQuoted (ls : List Label) : List Char :=
  ls.flatMap ([',', ' '] ++ Label.quoted ·)

def quotedList (l : Label) (ls : List Label) : List Char :=
  l.quoted ++ moreQuoted ls

theorem moreQuoted_cons (l : Label) (ls : List Label) :
    moreQuoted (l :: ls) = ',' :: ' ' :: quotedList l ls :=
  rfl

theorem quotedList_append (l : Label) (ls ks : List Label) :
    quotedList l (ls ++ ks) = quotedList l ls ++ moreQuoted ks := by
  simp [quotedList, moreQuoted]

theorem exists_of_quotedList_append_eq (h : quotedList l ls ++ after = quotedList k ks ++ rest)
    (hrest : AtBreak rest) :
    ∃ more, k :: ks = l :: ls ++ more ∧ after = moreQuoted more ++ rest := by
  induction ls generalizing l k ks with
  | nil =>
    rw [quotedList, quotedList, List.append_assoc, List.append_assoc] at h
    obtain ⟨rfl, hafter⟩ := Label.quoted_append_inj h
    exact ⟨ks, rfl, hafter⟩
  | cons l' ls ih =>
    rw [quotedList, quotedList, List.append_assoc, List.append_assoc] at h
    obtain ⟨rfl, hmore⟩ := Label.quoted_append_inj h
    cases ks with
    | nil =>
      have hcomma : rest = ',' :: ' ' :: (quotedList l' ls ++ after) := hmore.symm
      cases hrest ',' (hcomma ▸ rfl)
    | cons k' ks =>
      have hlists : quotedList l' ls ++ after = quotedList k' ks ++ rest :=
        (List.cons.inj (List.cons.inj hmore).2).2
      obtain ⟨more, hks, hafter⟩ := ih hlists
      exact ⟨more, by rw [hks]; rfl, hafter⟩

theorem moreQuoted_append_ne {d : Char} (hd : d.isAlphanum = true) (ks : List Label)
    (hrest : AtBreak rest) : moreQuoted ks ++ rest ≠ d :: after := by
  intro h
  cases ks with
  | nil =>
    have hrest' : rest = d :: after := h
    have hspace : d = ' ' := hrest d (hrest' ▸ rfl)
    rw [hspace] at hd
    cases hd
  | cons k ks =>
    rw [← (List.cons.inj h).1] at hd
    cases hd

theorem Label.quote_cases {tail : List Char}
    (h : k.quoted ++ tail = front ++ '"' :: back) :
    front = [] ∨ tail = back ∨ ∃ more, front = k.quoted ++ more ∧ tail = more ++ '"' :: back := by
  cases front with
  | nil => exact .inl rfl
  | cons c front =>
    simp only [quoted, List.cons_append, List.append_assoc, List.nil_append, List.cons.injEq] at h
    obtain ⟨rfl, h⟩ := h
    refine .inr ?_
    rcases List.append_eq_append_iff.mp h with ⟨more, rfl, hmore⟩ | ⟨more, hchars, hmore⟩
    · cases more with
      | nil => exact .inl (List.cons.inj hmore).2
      | cons e more =>
        obtain ⟨rfl, htail⟩ := List.cons.inj hmore
        exact .inr ⟨more, by simp [quoted], htail⟩
    · cases more with
      | nil => exact .inl (List.cons.inj hmore).2.symm
      | cons e more =>
        have hquote : e = '"' := (List.cons.inj hmore).1.symm
        have hmem : '"' ∈ k.chars := by
          rw [hchars, hquote]
          exact List.mem_append_right front List.mem_cons_self
        exact absurd hmem k.quote_not_mem

theorem exists_of_opening_quote (hpiece : quotedList k ks = front ++ '"' :: back) {d : Char}
    (hd : d.isAlphanum = true) (htext : back ++ rest = d :: after) (hrest : AtBreak rest) :
    ∃ done l ls, k :: ks = done ++ l :: ls ∧ '"' :: back = quotedList l ls ∧
      (front = [] ∧ done = [] ∨ [',', ' '] <:+ front) := by
  induction ks generalizing k front with
  | nil =>
    rcases Label.quote_cases hpiece with rfl | rfl | ⟨more, -, hmore⟩
    · exact ⟨[], k, [], rfl, hpiece.symm, .inl ⟨rfl, rfl⟩⟩
    · exact absurd htext (moreQuoted_append_ne hd [] hrest)
    · cases List.append_ne_nil_of_right_ne_nil more (List.cons_ne_nil '"' back) hmore.symm
  | cons k' ks ih =>
    rcases Label.quote_cases hpiece with rfl | rfl | ⟨more, rfl, hmore⟩
    · exact ⟨[], k, k' :: ks, rfl, hpiece.symm, .inl ⟨rfl, rfl⟩⟩
    · exact absurd htext (moreQuoted_append_ne hd (k' :: ks) hrest)
    · rw [moreQuoted_cons] at hmore
      obtain ⟨list, rfl, hlist⟩ : ∃ list, more = ',' :: ' ' :: list ∧
          quotedList k' ks = list ++ '"' :: back := by
        rcases more with _ | ⟨c, _ | ⟨d, list⟩⟩
        · cases hmore
        · cases hmore
        · simp only [List.cons_append, List.cons.injEq] at hmore
          obtain ⟨rfl, rfl, hlist⟩ := hmore
          exact ⟨list, rfl, hlist⟩
      obtain ⟨done, l, ls, hks, hback, hfront⟩ := ih hlist
      refine ⟨k :: done, l, ls, by rw [hks]; rfl, hback, .inr ?_⟩
      rcases hfront with ⟨rfl, -⟩ | hfront
      · exact ⟨k.quoted, rfl⟩
      · exact hfront.trans ⟨k.quoted ++ [',', ' '], by simp⟩

theorem exists_quotedList_eq_cons (l : Label) (ls : List Label) :
    ∃ d tail, quotedList l ls = '"' :: d :: tail ∧ d.isAlphanum = true := by
  obtain ⟨d, hhead, hd⟩ := l.first
  cases hchars : l.chars with
  | nil =>
    rw [hchars] at hhead
    cases hhead
  | cons c tail =>
    rw [hchars] at hhead
    cases hhead
    refine ⟨_, tail ++ ['"'] ++ moreQuoted ls, ?_, hd⟩
    simp [quotedList, Label.quoted, hchars]

theorem getLast?_quotedList (l : Label) (ls : List Label) :
    (quotedList l ls).getLast? = some '"' := by
  induction ls generalizing l with
  | nil =>
    rw [quotedList, moreQuoted, List.flatMap_nil, List.append_nil, Label.quoted,
      ← List.cons_append, List.getLast?_concat]
  | cons k ls ih =>
    obtain ⟨d, tail, hlist, -⟩ := exists_quotedList_eq_cons k ls
    rw [quotedList, moreQuoted_cons, hlist, List.getLast?_append_cons, List.getLast?_cons_cons,
      List.getLast?_cons_cons, ← hlist]
    exact ih k

theorem cuts_of_quotedList (hpiece : quotedList k ks = front ++ back) (hne : back ≠ [])
    (htext : back ++ rest = quotedList l ls ++ after) (hrest : AtBreak rest) :
    quotedList l ls <:+: quotedList k ks ∧
      (quotedList k ks = quotedList l ls ∨ Cuts front after) := by
  obtain ⟨d, tail, hneedle, hd⟩ := exists_quotedList_eq_cons l ls
  obtain ⟨c, back, rfl⟩ := List.exists_cons_of_ne_nil hne
  rw [hneedle] at htext
  obtain ⟨rfl, hbody⟩ := List.cons.inj htext
  obtain ⟨done, k', ks', hlabels, hback, hfront⟩ :=
    exists_of_opening_quote hpiece hd hbody hrest
  rw [← hneedle, hback] at htext
  obtain ⟨more, hmore, rfl⟩ := exists_of_quotedList_append_eq htext.symm hrest
  obtain ⟨rfl, rfl⟩ := List.cons.inj hmore
  replace hback := hback.trans (quotedList_append _ ls more)
  rw [hpiece, hback]
  refine ⟨⟨front, moreQuoted more, List.append_assoc ..⟩, ?_⟩
  -- behind the labels a comma is left, or before them a comma and a space
  cases more with
  | cons k' more => exact .inr (.inl (not_atBreak_cons (by decide) _))
  | nil =>
    rcases hfront with ⟨rfl, -⟩ | hfront
    · exact .inl (by simp [moreQuoted])
    · exact .inr (.inr (.inr hfront))

end Labels

section Conditions
open Lifting (isOperator_operand isOperator_body body_ne_nil exists_operand_eq_cons)

variable {v c : Condition} {front back rest after : List Char}

theorem bare_eq_append {run other : Run isLetterOrDigit}
    (h : run.chars ++ after = other.chars ++ rest) (hrest : AtBreak rest) :
    ∃ more, other.chars = run.chars ++ more ∧ after = more ++ rest := by
  have hspace : ' ' ∉ run.chars := fun hmem => by cases run.all ' ' hmem
  refine (isListed_of_not_mem hspace).exists_eq_append h.symm hrest other.ne_nil fun hcomma => ?_
  cases other.all ',' (List.mem_of_getLast? hcomma)

theorem bare_append_ne_quoted (run : Run isLetterOrDigit) (l : Label) :
    run.chars ++ after ≠ l.quoted ++ rest := by
  intro h
  obtain ⟨d, tail, hchars⟩ := List.exists_cons_of_ne_nil run.ne_nil
  rw [hchars] at h
  have hquote : d = '"' := (List.cons.inj h).1
  cases run.all '"' (hquote ▸ hchars ▸ List.mem_cons_self)

theorem operand_eq_append {o p : Operand} (h : o.chars ++ after = p.chars ++ rest)
    (hrest : AtBreak rest) :
    ∃ more, p.chars = o.chars ++ more ∧ after = more ++ rest ∧ ' ' ∉ more := by
  cases o with
  | quoted l =>
    cases p with
    | quoted k =>
      obtain ⟨rfl, rfl⟩ := Label.quoted_append_inj h
      exact ⟨[], (List.append_nil _).symm, rfl, List.not_mem_nil⟩
    | bare run => exact absurd h.symm (bare_append_ne_quoted run l)
  | bare run =>
    cases p with
    | quoted k => exact absurd h (bare_append_ne_quoted run k)
    | bare other =>
      obtain ⟨more, hmore, hafter⟩ := bare_eq_append h hrest
      refine ⟨more, hmore, hafter, fun hspace => ?_⟩
      cases other.all ' ' (hmore ▸ List.mem_append_right _ hspace)

theorem body_eq_append (h : v.body ++ after = c.body ++ rest) (hrest : AtBreak rest) :
    ∃ more, c.body = v.body ++ more ∧ after = more ++ rest ∧ ' ' ∉ more := by
  obtain ⟨d, tail, hv, hd⟩ := exists_operand_eq_cons v.operand
  obtain ⟨e, other, hc, he⟩ := exists_operand_eq_cons c.operand
  unfold Condition.body at h ⊢
  cases hvs : v.isSpaced <;> cases hcs : c.isSpaced <;>
    simp only [hvs, hcs, if_true, if_false, Bool.false_eq_true, List.nil_append, List.cons_append,
      List.cons.injEq, true_and] at h ⊢
  · exact operand_eq_append h hrest
  · rw [hv] at h
    exact absurd (List.cons.inj h).1 hd
  · rw [hc] at h
    exact absurd (List.cons.inj h).1.symm he
  · exact operand_eq_append h hrest

theorem exists_of_operator_place (h : c.chars = front ++ back) (hne : back ≠ [])
    (hhead : ∀ d ∈ back.head?, isOperator d = true) :
    ∃ operators, c.operator.chars = front ++ operators ∧ back = operators ++ c.body := by
  rcases List.append_eq_append_iff.mp h with ⟨more, rfl, hbody⟩ | ⟨more, hoperators, hback⟩
  · obtain ⟨d, back, rfl⟩ := List.exists_cons_of_ne_nil hne
    have hmem : d ∈ c.body := hbody ▸ List.mem_append_right more List.mem_cons_self
    have hfalse := isOperator_body c d hmem
    rw [hhead d rfl] at hfalse
    cases hfalse
  · exact ⟨more, hoperators, hback⟩

theorem exists_condition_eq_cons (v : Condition) :
    ∃ d tail, v.chars = d :: tail ∧ isOperator d = true := by
  obtain ⟨d, tail, hchars⟩ := List.exists_cons_of_ne_nil v.operator.ne_nil
  exact ⟨d, tail ++ v.body, by rw [Condition.chars, hchars]; rfl,
    v.operator.all d (hchars ▸ List.mem_cons_self)⟩

theorem closes_condition (v : Condition) : ∀ c ∈ v.chars.getLast?, c ≠ ' ' ∧ c ≠ ',' := by
  obtain ⟨d, tail, hoperand, -⟩ := exists_operand_eq_cons v.operand
  have hne : v.operand.chars ≠ [] := by
    rw [hoperand]
    exact List.cons_ne_nil d tail
  intro c hc
  rw [Condition.chars, List.getLast?_append_of_ne_nil _ (body_ne_nil v), Condition.body,
    List.getLast?_append_of_ne_nil _ hne] at hc
  cases hkind : v.operand with
  | quoted l =>
    rw [hkind, Operand.chars, Label.quoted, ← List.cons_append, List.getLast?_concat] at hc
    cases hc
    decide
  | bare run =>
    rw [hkind] at hc
    have hclass := run.all c (List.mem_of_getLast? hc)
    constructor <;> rintro rfl <;> cases hclass

theorem operators_eq {operators body : List Char} (hall : ∀ d ∈ operators, isOperator d = true)
    (hbody : ∀ d ∈ body.head?, isOperator d = false)
    (h : operators ++ body = v.chars ++ after) :
    operators = v.operator.chars ∧ body = v.body ++ after := by
  have htake := congrArg (List.takeWhile isOperator) h
  rw [takeWhile_append_of_stops hall hbody, Condition.chars, List.append_assoc,
    Lifting.takeWhile_isOperator] at htake
  rw [Condition.chars, List.append_assoc, htake] at h
  exact ⟨htake, List.append_cancel_left h⟩

theorem isOperator_head {back : List Char} (hne : back ≠ [])
    (htext : back ++ rest = v.chars ++ after) : ∀ d ∈ back.head?, isOperator d = true := by
  obtain ⟨d, tail, hv, hd⟩ := exists_condition_eq_cons v
  obtain ⟨e, back, rfl⟩ := List.exists_cons_of_ne_nil hne
  rw [hv] at htext
  rintro f ⟨⟩
  rwa [(List.cons.inj htext).1]

theorem cuts_of_condition (hpiece : c.chars = front ++ back) (hne : back ≠ [])
    (htext : back ++ rest = v.chars ++ after) (hrest : AtBreak rest) :
    v.chars <:+: c.chars ∧ (c.chars = v.chars ∨ Cuts front after) := by
  obtain ⟨operators, hoperators, rfl⟩ :=
    exists_of_operator_place hpiece hne (isOperator_head hne htext)
  have hfront : ∀ d ∈ front, isOperator d = true := fun d hd =>
    c.operator.all d (hoperators ▸ List.mem_append_left _ hd)
  have hall : ∀ d ∈ operators, isOperator d = true := fun d hd =>
    c.operator.all d (hoperators ▸ List.mem_append_right _ hd)
  rw [List.append_assoc] at htext
  obtain ⟨rfl, hbody⟩ :=
    operators_eq hall (stops_append (body_ne_nil c) (isOperator_body c)) htext
  obtain ⟨more, hmore, rfl, hspace⟩ := body_eq_append hbody.symm hrest
  have hchars : c.chars = front ++ (v.chars ++ more) := by
    rw [hpiece, hmore, Condition.chars, List.append_assoc]
  refine ⟨⟨front, more, by rw [hchars, List.append_assoc]⟩, ?_⟩
  -- behind the operand a letter or digit is left, or an operator character before the operator
  cases more with
  | cons e more =>
    have he : e ≠ ' ' := fun h => hspace (h ▸ List.mem_cons_self)
    exact .inr (.inl (not_atBreak_cons he _))
  | nil =>
    rcases List.eq_nil_or_concat' front with rfl | ⟨front, e, rfl⟩
    · exact .inl (by rw [hchars, List.nil_append, List.append_nil])
    · refine .inr (.inr (.inl ⟨e, by simp, ?_⟩))
      rintro rfl
      cases hfront ' ' (List.mem_append_right _ List.mem_cons_self)

theorem space_not_mem_placeholder (kind : EntityKind) : ' ' ∉ kind.placeholder.toList := by
  cases kind <;> decide

theorem placeholder_place {kind : EntityKind} (hpiece : kind.placeholder.toList = front ++ back)
    (hne : back ≠ []) (hhead : ∀ d ∈ back.head?, isOperator d = true) :
    front = [] ∨ front ≠ [] ∧ back = ['>'] := by
  cases front with
  | nil => exact .inl rfl
  | cons f front =>
    refine .inr ⟨List.cons_ne_nil _ _, ?_⟩
    rw [EntityKind.placeholder_toList] at hpiece
    rcases List.append_eq_append_iff.mp (List.cons.inj hpiece).2 with
      ⟨more, -, hback⟩ | ⟨more, hname, rfl⟩
    · cases more with
      | nil => exact hback.symm
      | cons d more =>
        have hnil := (List.cons.inj hback).2.symm
        exact absurd (List.append_eq_nil_iff.mp hnil).2 hne
    · cases more with
      | nil => rfl
      | cons d more =>
        have hmem : d ∈ kind.name.toList := hname ▸ List.mem_append_right _ List.mem_cons_self
        have hfalse := Lifting.isOperator_name kind d hmem
        rw [hhead d rfl] at hfalse
        cases hfalse

theorem not_atBreak_of_placeholder {kind : EntityKind} {text : List Char}
    (hwhole : ¬ kind.placeholder.toList <:+: text)
    (h : kind.placeholder.toList ++ rest = text ++ after) :
    ¬ AtBreak after ∧ text <+: kind.placeholder.toList := by
  rcases List.append_eq_append_iff.mp h with ⟨more, htext, -⟩ | ⟨more, hkind, rfl⟩
  · exact absurd (htext ▸ (List.prefix_append _ _).isInfix) hwhole
  · refine ⟨?_, hkind ▸ List.prefix_append _ _⟩
    cases more with
    | nil => exact absurd (hkind.trans (List.append_nil text) ▸ List.infix_rfl) hwhole
    | cons d more =>
      refine not_atBreak_cons ?_ _
      rintro rfl
      exact space_not_mem_placeholder kind (hkind ▸ List.mem_append_right _ List.mem_cons_self)

theorem leavesOff_of_placeholder {kind : EntityKind}
    (hpiece : kind.placeholder.toList = front ++ back) (hfront : front ≠ []) : LeavesOff front := by
  refine .inl ⟨_, List.getLast?_eq_some_getLast hfront, fun hspace => ?_⟩
  apply space_not_mem_placeholder kind
  rw [hpiece, ← hspace]
  exact List.mem_append_left _ (List.getLast_mem hfront)

theorem eq_of_closing (h : '>' :: rest = v.chars ++ after) (hrest : AtBreak rest) :
    v.chars = '>' :: ' ' :: v.operand.chars ∧ rest = ' ' :: (v.operand.chars ++ after) := by
  obtain ⟨hoperator, hbody⟩ :=
    operators_eq (List.forall_mem_singleton.mpr (by decide)) (hrest.stops rfl) h
  obtain ⟨d, tail, hoperand, hd⟩ := exists_operand_eq_cons v.operand
  unfold Condition.body at hbody
  cases hspaced : v.isSpaced with
  | true =>
    rw [hspaced] at hbody
    refine ⟨?_, hbody⟩
    rw [Condition.chars, Condition.body, hspaced, ← hoperator]
    rfl
  | false =>
    rw [hspaced, hoperand] at hbody
    exact absurd (hrest d (hbody ▸ rfl)) hd

theorem operand_append_ne_cons (o : Operand) {d : Char} (hd : isOperator d = true)
    (after tail : List Char) : o.chars ++ after ≠ d :: tail := by
  intro h
  obtain ⟨e, more, hoperand, -⟩ := exists_operand_eq_cons o
  have he := isOperator_operand o e (hoperand ▸ List.mem_cons_self)
  rw [hoperand] at h
  rw [(List.cons.inj h).1, hd] at he
  cases he

theorem cuts_of_placeholder {kind : EntityKind} (hpiece : kind.placeholder.toList = front ++ back)
    (hne : back ≠ []) (htext : back ++ rest = v.chars ++ after) (hrest : AtBreak rest) :
    Cuts front after ∧ (v.chars <+: kind.placeholder.toList ∨
      v.chars = '>' :: ' ' :: v.operand.chars ∧ rest = ' ' :: (v.operand.chars ++ after)) := by
  rcases placeholder_place hpiece hne (isOperator_head hne htext) with rfl | ⟨hfront, rfl⟩
  · rw [List.nil_append] at hpiece
    subst hpiece
    have hwhole : ¬ kind.placeholder.toList <:+: v.chars := fun hpart =>
      not_avoids_of_isInfix hne hpart [] (avoids_condition kind v atBreak_nil)
    obtain ⟨hafter, hbegins⟩ := not_atBreak_of_placeholder hwhole htext
    exact ⟨.inl hafter, .inl hbegins⟩
  · refine ⟨.inr (leavesOff_of_placeholder hpiece hfront), .inr ?_⟩
    exact eq_of_closing htext hrest

end Conditions

section Tokens
variable {kind : EntityKind} {v t : Token} {front back rest after : List Char}

theorem chars_number (n : Numeral) : (Token.number n).chars = listed n [] := by
  simp [Token.chars, listed]

theorem chars_numberList (n m : Numeral) (more : List Numeral) :
    (Token.numberList n m more).chars = listed n (m :: more) := by
  show [',', ' '].intercalate (n.chars :: (m :: more).map Numeral.chars) = _
  rw [intercalate_cons, List.flatMap_map]
  rfl

theorem chars_value (l : Label) : (Token.value l).chars = quotedList l [] := by
  simp [Token.chars, quotedList, moreQuoted]

theorem chars_stringList (l k : Label) (more : List Label) :
    (Token.stringList l k more).chars = quotedList l (k :: more) := by
  show [',', ' '].intercalate (l.quoted :: (k :: more).map Label.quoted) = _
  rw [intercalate_cons, List.flatMap_map]
  rfl

theorem cuts_of_same_kind (hv : isOfKind kind v = true) (ht : isOfKind kind t = true)
    (hpiece : t.chars = front ++ back) (hne : back ≠ []) (htext : back ++ rest = v.chars ++ after)
    (hrest : AtBreak rest) :
    v.chars <:+: t.chars ∧ (t.chars = v.chars ∨ Cuts front after) := by
  have hvkind : v.kind? = some kind := beq_iff_eq.mp hv
  have htkind : t.kind? = some kind := beq_iff_eq.mp ht
  cases v <;> cases hvkind <;> cases t <;> cases htkind
  case number n m =>
    rw [chars_number] at htext hpiece ⊢
    rw [chars_number]
    exact cuts_of_listed hpiece hne htext hrest
  case value l k =>
    rw [chars_value] at htext hpiece ⊢
    rw [chars_value]
    exact cuts_of_quotedList hpiece hne htext hrest
  case numberList n n' ns m m' ms =>
    rw [chars_numberList] at htext hpiece ⊢
    rw [chars_numberList]
    exact cuts_of_listed hpiece hne htext hrest
  case stringList l l' ls k k' ks =>
    rw [chars_stringList] at htext hpiece ⊢
    rw [chars_stringList]
    exact cuts_of_quotedList hpiece hne htext hrest
  case condition v c => exact cuts_of_condition hpiece hne htext hrest

def opens : EntityKind → Char → Bool
  | .condition => isOperator
  | .stringList | .value => (· == '"')
  | .numberList | .number => isNumeric

theorem exists_eq_cons_of_isOfKind (hv : isOfKind kind v = true) :
    ∃ c tail, v.chars = c :: tail ∧ opens kind c = true := by
  have hnumeral (n : Numeral) (more : List Numeral) :
      ∃ c tail, listed n more = c :: tail ∧ isNumeric c = true := by
    obtain ⟨c, tail, hchars⟩ := List.exists_cons_of_ne_nil (listed_ne_nil n more)
    exact ⟨c, tail, hchars, isNumeric_head_listed n more c (by rw [hchars]; rfl)⟩
  have hvkind : v.kind? = some kind := beq_iff_eq.mp hv
  cases v <;> cases hvkind
  case number n =>
    rw [chars_number]
    exact hnumeral n []
  case value l => exact ⟨'"', _, rfl, rfl⟩
  case numberList n m more =>
    rw [chars_numberList]
    exact hnumeral n (m :: more)
  case stringList l k more =>
    rw [chars_stringList]
    exact ⟨'"', _, rfl, rfl⟩
  case condition v => exact exists_condition_eq_cons v

theorem chars_ne_nil_of_isOfKind (hv : isOfKind kind v = true) : v.chars ≠ [] := by
  obtain ⟨c, tail, hchars, -⟩ := exists_eq_cons_of_isOfKind hv
  rw [hchars]
  exact List.cons_ne_nil c tail

theorem closes_of_isOfKind (hv : isOfKind kind v = true) :
    ∀ c ∈ v.chars.getLast?, c ≠ ' ' ∧ c ≠ ',' := by
  have hlisted (n : Numeral) (more : List Numeral) :
      ∀ c ∈ (listed n more).getLast?, c ≠ ' ' ∧ c ≠ ',' := by
    intro c hc
    have hnumeric := isNumeric_last_listed n more c hc
    constructor <;> rintro rfl <;> cases hnumeric
  have hquoted (l : Label) (more : List Label) :
      ∀ c ∈ (quotedList l more).getLast?, c ≠ ' ' ∧ c ≠ ',' := by
    intro c hc
    rw [getLast?_quotedList] at hc
    cases hc
    decide
  have hvkind : v.kind? = some kind := beq_iff_eq.mp hv
  cases v <;> cases hvkind
  case number n =>
    rw [chars_number]
    exact hlisted n []
  case value l =>
    rw [chars_value]
    exact hquoted l []
  case numberList n m more =>
    rw [chars_numberList]
    exact hlisted n (m :: more)
  case stringList l k more =>
    rw [chars_stringList]
    exact hquoted l (k :: more)
  case condition v => exact closes_condition v

theorem avoids_of_opens (hv : isOfKind kind v = true) {piece : List Char}
    (h : ∀ c ∈ piece, opens kind c = false) : Avoids v.chars piece rest := by
  obtain ⟨c, tail, hchars, hc⟩ := exists_eq_cons_of_isOfKind hv
  rw [hchars]
  refine avoids_of_not_mem fun hmem => ?_
  rw [h c hmem] at hc
  cases hc

theorem avoids_listed (n m : Numeral) (more : List Numeral) {piece : List Char}
    (hpiece : ',' ∉ piece) (hrest : AtBreak rest) : Avoids (listed n (m :: more)) piece rest := by
  by_contra h
  obtain ⟨front, back, after, rfl, hne, -, htext⟩ := exists_first_of_not_avoids h
  have hback : ',' ∉ back := fun hmem => hpiece (List.mem_append_right front hmem)
  rw [listed_cons, List.append_assoc] at htext
  obtain ⟨tail, rfl, htail⟩ := n.isListed.exists_eq_append htext hrest hne
    fun hlast => hback (List.mem_of_getLast? hlast)
  cases tail with
  | nil =>
    cases hrest ',' (by rw [← List.nil_append rest, ← htail]; rfl)
  | cons d tail =>
    have hd : d = ',' := (List.cons.inj htail).1.symm
    exact hback (hd ▸ List.mem_append_right _ List.mem_cons_self)

theorem avoids_quotedList (l k : Label) (more : List Label) (label : Label)
    (hrest : AtBreak rest) : Avoids (quotedList l (k :: more)) label.quoted rest := by
  by_contra h
  obtain ⟨front, back, after, hpiece, hne, -, htext⟩ := exists_first_of_not_avoids h
  have hlabel : label.quoted = quotedList label [] := by simp [quotedList, moreQuoted]
  rw [hlabel] at hpiece
  obtain ⟨hpart, -⟩ := cuts_of_quotedList hpiece hne htext hrest
  have hcomma : ',' ∈ quotedList l (k :: more) := by
    rw [quotedList, moreQuoted_cons]
    exact List.mem_append_right _ List.mem_cons_self
  rw [← hlabel] at hpart
  rcases Label.mem_quoted (hpart.subset hcomma) with hmem | hmem
  · cases hmem
  · exact ne_comma_of_not_mem_marks (Label.not_mem_marks hmem) rfl

/-- The kinds whose entities are replaced before those of the kind. -/
def passed : EntityKind → List EntityKind
  | .condition => []
  | .stringList => [.condition]
  | .numberList => [.condition, .stringList]
  | .value => [.condition, .stringList, .numberList]
  | .number => [.condition, .stringList, .numberList, .value]

theorem avoids_other_kind (hv : isOfKind kind v = true) (ht : isOfKind kind t = false)
    (hrest : AtBreak rest) : Avoids v.chars (t.shown (passed kind)) rest := by
  cases kind with
  | condition =>
    refine avoids_of_opens hv ?_
    rw [passed, shown_nil]
    exact isOperator_chars ht
  | stringList =>
    cases hvalue : isOfKind .value t with
    | true =>
      obtain ⟨label, rfl⟩ := exists_eq_value hvalue
      obtain ⟨l, k, more, rfl⟩ := exists_eq_stringList hv
      rw [chars_stringList]
      exact avoids_quotedList l k more label hrest
    | false =>
      refine avoids_of_opens hv fun c hc => ?_
      exact beq_eq_false_iff_ne.mpr (ne_quotes_of_shown_condition hvalue ht c hc).1
  | numberList =>
    cases v <;> cases hv
    case numberList n m more =>
      rw [chars_numberList]
      exact avoids_listed n m more (not_mem_comma_of_shown ht) hrest
  | value =>
    refine avoids_of_opens hv fun c hc => ?_
    exact beq_eq_false_iff_ne.mpr (ne_quotes_of_shown_lists ht c hc).1
  | number => exact avoids_of_opens hv (not_isNumeric_of_shown ht)

theorem avoids_placeholder (hv : isOfKind kind v = true) (hkind : kind ≠ .condition)
    (other : EntityKind) : Avoids v.chars other.placeholder.toList rest := by
  refine avoids_of_opens hv fun c hc => ?_
  cases kind with
  | condition => exact absurd rfl hkind
  | stringList => exact beq_eq_false_iff_ne.mpr (placeholder_ne_quotes other c hc).1
  | value => exact beq_eq_false_iff_ne.mpr (placeholder_ne_quotes other c hc).1
  | numberList => exact placeholder_not_isNumeric other c hc
  | number => exact placeholder_not_isNumeric other c hc

theorem chars_ne_nil (t : Token) : t.chars ≠ [] := by
  cases t with
  | word run => exact run.ne_nil
  | _ => exact chars_ne_nil_of_isOfKind (beq_self_eq_true _)

theorem operand_prefix_of_token {o : Operand} (ht : isOfKind .condition t = false)
    (h : t.chars ++ rest = o.chars ++ after) (hrest : AtBreak rest) : o.chars <+: t.chars := by
  cases o with
  | bare run =>
    rcases List.append_eq_append_iff.mp h with ⟨more, hrun, hmore⟩ | ⟨more, hchars, -⟩
    · replace hrun : run.chars = t.chars ++ more := hrun
      cases more with
      | nil => exact ⟨[], by rw [Operand.chars, hrun, List.append_nil, List.append_nil]⟩
      | cons d more =>
        have hd : d = ' ' := hrest d (hmore ▸ rfl)
        have hmem : ' ' ∈ run.chars := by
          rw [hrun, hd]
          exact List.mem_append_right _ List.mem_cons_self
        cases run.all ' ' hmem
    · exact ⟨more, hchars.symm⟩
  | quoted l =>
    have hquoted : t.chars ++ rest = l.quoted ++ after := h
    show l.quoted <+: t.chars
    cases hvalue : isOfKind .value t with
    | true =>
      obtain ⟨k, rfl⟩ := exists_eq_value hvalue
      obtain ⟨rfl, -⟩ := Label.quoted_append_inj hquoted
      exact List.prefix_rfl
    | false =>
      cases hlist : isOfKind .stringList t with
      | true =>
        obtain ⟨k, k', more, rfl⟩ := exists_eq_stringList hlist
        rw [chars_stringList, quotedList, List.append_assoc] at hquoted
        obtain ⟨rfl, -⟩ := Label.quoted_append_inj hquoted
        rw [chars_stringList]
        exact List.prefix_append _ _
      | false =>
        obtain ⟨c, tail, hchars⟩ := List.exists_cons_of_ne_nil (chars_ne_nil t)
        have hshown : t.shown [.condition] = t.chars := by
          cases t <;> first | rfl | cases ht
        have hmem : c ∈ t.shown [.condition] := by
          rw [hshown, hchars]
          exact List.mem_cons_self
        rw [hchars] at hquoted
        have hc : c = '"' := (List.cons.inj hquoted).1
        exact absurd hc (ne_quotes_of_shown_condition hvalue hlist c hmem).1

end Tokens
end TablePhrase.Phrase

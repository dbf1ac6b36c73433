import TablePhrase.Lifting.Number
import TablePhrase.Proofs.Text.Pieces

/-!
What the spans of numbers look like and where they end. A number is matched up to a word boundary,
be it as long as it can be or cut short in front of a comma, and a list of numbers has at least two.
-/

namespace TablePhrase.Lifting

open Unicode (isDigit isPlainWord isWord)

section Characters
variable {c : Char}

def isNumeric (c : Char) : Bool :=
  isDigit c || c == '-' || c == '+' || c == '.' || c == '/'

theorem isNumeric_of_isDigit (h : isDigit c = true) : isNumeric c = true := by
  simp [isNumeric, h]

theorem isWord_of_isDigit (h : isDigit c = true) : isWord c = true := by
  obtain ⟨hdecimal, hknown⟩ := Bool.and_eq_true_iff.mp h
  by_cases hascii : c.toNat < 0x80
  · rw [Unicode.isDecimal, if_pos hascii] at hdecimal
    simp [isWord, hascii, Char.isAlphanum, hdecimal]
  · simp [isWord, hascii, hdecimal, hknown]

theorem isPlainWord_of_isDigit (h : isDigit c = true) : isPlainWord c = true := by
  obtain ⟨hdecimal, -⟩ := Bool.and_eq_true_iff.mp h
  by_cases hascii : c.toNat < 0x80
  · rw [Unicode.isDecimal, if_pos hascii] at hdecimal
    simp [isPlainWord, hascii, Char.isAlphanum, hdecimal]
  · simp [isPlainWord, hascii, Unicode.isNumber, hdecimal]

theorem ne_of_isDigit {c d : Char} (hc : isDigit c = true) (hd : isDigit d = false) : c ≠ d := by
  rintro rfl
  rw [hc] at hd
  cases hd

/-- In a number the digits alone continue a word, whichever class of word characters is meant. -/
theorem isWord_eq_isPlainWord (h : isNumeric c = true) : isWord c = isPlainWord c := by
  cases hdigit : isDigit c with
  | true => rw [isWord_of_isDigit hdigit, isPlainWord_of_isDigit hdigit]
  | false =>
    rw [isNumeric, hdigit] at h
    simp only [Bool.false_or, Bool.or_eq_true, beq_iff_eq] at h
    rcases h with ((rfl | rfl) | rfl) | rfl <;> decide

theorem continuesWord_eq {c : Option Char} (h : ∀ d ∈ c, isNumeric d = true) :
    continuesWord isWord c = continuesWord isPlainWord c := by
  cases c with
  | none => rfl
  | some d => exact isWord_eq_isPlainWord (h d rfl)

end Characters

def AtBoundary (front back : List Char) : Prop :=
  continuesWord isWord front.getLast? ≠ continuesWord isWord back.head?

theorem atBoundary_append_iff {run : List Char} (hne : run ≠ []) (front back : List Char) :
    AtBoundary (front ++ run) back ↔ AtBoundary run back := by
  rw [AtBoundary, AtBoundary, List.getLast?_append, List.getLast?_eq_some_getLast hne,
    Option.some_or]

theorem atBoundary_digits_iff {run back : List Char} (hne : run ≠ [])
    (hrun : ∀ c ∈ run, isDigit c = true) :
    AtBoundary run back ↔ continuesWord isWord back.head? = false := by
  have hlast : continuesWord isWord run.getLast? = true := by
    rw [List.getLast?_eq_some_getLast hne]
    exact isWord_of_isDigit (hrun _ (List.getLast_mem hne))
  rw [AtBoundary, hlast]
  cases continuesWord isWord back.head? <;> simp

/-- A sign, a point, digits, a point or a slash and more digits, of which only the first digits have
to be there. -/
structure NumberSpan where
  sign : List Char
  point : List Char
  whole : List Char
  separator : List Char
  fraction : List Char
  isSign : sign ∈ [[], ['-'], ['+']]
  isPoint : point ∈ [[], ['.']]
  isSeparator : separator ∈ [[], ['.'], ['/']]
  ne_nil : whole ≠ []
  digits : ∀ c ∈ whole ++ fraction, isDigit c = true

namespace NumberSpan
variable (n : NumberSpan)

def chars : List Char :=
  n.sign ++ n.point ++ (n.whole ++ (n.separator ++ n.fraction))

def listed (ns : List NumberSpan) : List Char :=
  [',', ' '].intercalate (ns.map chars)

theorem chars_ne_nil : n.chars ≠ [] :=
  List.append_ne_nil_of_right_ne_nil _ (List.append_ne_nil_of_left_ne_nil n.ne_nil _)

theorem isNumeric_of_mem {c : Char} (h : c ∈ n.chars) : isNumeric c = true := by
  have hsign : ∀ mark ∈ [[], ['-'], ['+']], ∀ c ∈ mark, isNumeric c = true := by simp [isNumeric]
  have hpoint : ∀ mark ∈ [[], ['.']], ∀ c ∈ mark, isNumeric c = true := by simp [isNumeric]
  have hseparator : ∀ mark ∈ [[], ['.'], ['/']], ∀ c ∈ mark, isNumeric c = true := by
    simp [isNumeric]
  have hdigits : ∀ c ∈ n.whole ++ n.fraction, isNumeric c = true :=
    fun c hc => isNumeric_of_isDigit (n.digits c hc)
  simp only [chars, List.mem_append] at h hdigits
  rcases h with (h | h) | h | h | h
  · exact hsign n.sign n.isSign c h
  · exact hpoint n.point n.isPoint c h
  · exact hdigits c (.inl h)
  · exact hseparator n.separator n.isSeparator c h
  · exact hdigits c (.inr h)

theorem listed_cons (ns : List NumberSpan) :
    listed (n :: ns) = n.chars ++ ns.flatMap ([',', ' '] ++ ·.chars) := by
  rw [listed, List.map_cons, Text.intercalate_cons, List.flatMap_map]

theorem listed_cons_ne_nil (ns : List NumberSpan) : listed (n :: ns) ≠ [] := by
  rw [listed_cons]
  exact List.append_ne_nil_of_left_ne_nil n.chars_ne_nil _

end NumberSpan

theorem isPlainBoundary_iff {shorter longer : NumberSpan} {back rest : List Char}
    (hlt : shorter.chars.length < longer.chars.length)
    (htext : shorter.chars ++ back = longer.chars ++ rest) :
    isPlainBoundary shorter.chars.getLast? back.head? = true ↔ AtBoundary shorter.chars back := by
  have hlast := continuesWord_eq fun c hc => shorter.isNumeric_of_mem (List.mem_of_getLast? hc)
  have hnext : continuesWord isWord back.head? = continuesWord isPlainWord back.head? := by
    refine continuesWord_eq fun c hc => ?_
    have hback : back = (longer.chars ++ rest).drop shorter.chars.length := by
      rw [← htext, List.drop_left]
    rw [hback, List.head?_drop, List.getElem?_append_left hlt] at hc
    exact longer.isNumeric_of_mem (List.mem_of_getElem? hc)
  rw [AtBoundary, hlast, hnext]
  exact bne_iff_ne

section Matching
variable {before text : List Char} {length : Nat}

theorem leadLength_of_ne {c : Char} (rest : List Char) (hminus : c ≠ '-') (hplus : c ≠ '+')
    (hpoint : c ≠ '.') : leadLength (c :: rest) = 0 := by
  unfold leadLength
  split
  · next heq =>
    cases heq
    simp [hminus, hplus, hpoint]
  · next heq =>
    cases heq
    simp [hminus, hplus, hpoint]
  · rfl

theorem leadLength_cons (c : Char) {d : Char} (hd : d ≠ '.') (rest : List Char) :
    leadLength (c :: d :: rest) = if c = '-' || c = '+' || c = '.' then 1 else 0 := by
  unfold leadLength
  split
  · next heq =>
    cases heq
    exact absurd rfl hd
  · next heq =>
    cases heq
    rfl
  · next heq => cases heq

theorem leadLength_append {sign point : List Char} (hsign : sign ∈ [[], ['-'], ['+']])
    (hpoint : point ∈ [[], ['.']]) {digit : Char} (hdigit : isDigit digit = true)
    (rest : List Char) : leadLength (sign ++ point ++ digit :: rest) = (sign ++ point).length := by
  have hminus := ne_of_isDigit hdigit (by decide : isDigit '-' = false)
  have hplus := ne_of_isDigit hdigit (by decide : isDigit '+' = false)
  have hdot := ne_of_isDigit hdigit (by decide : isDigit '.' = false)
  simp only [List.mem_cons, List.not_mem_nil, or_false] at hsign hpoint
  rcases hsign with rfl | rfl | rfl <;> rcases hpoint with rfl | rfl
  · exact leadLength_of_ne rest hminus hplus hdot
  · exact leadLength_cons '.' hdot rest
  · exact leadLength_cons '-' hdot rest
  · rfl
  · exact leadLength_cons '+' hdot rest
  · rfl

theorem exists_of_leadLength (text : List Char) :
    ∃ sign ∈ [[], ['-'], ['+']], ∃ point ∈ [[], ['.']], ∃ rest,
      text = sign ++ point ++ rest ∧ leadLength text = (sign ++ point).length := by
  unfold leadLength
  split
  · next c rest =>
    split
    · next hsign =>
      simp only [Bool.or_eq_true, decide_eq_true_eq] at hsign
      exact ⟨[c], by simpa using hsign, ['.'], by decide, rest, rfl, rfl⟩
    · split
      · next hpoint =>
        subst hpoint
        exact ⟨[], by decide, ['.'], by decide, '.' :: rest, rfl, rfl⟩
      · exact ⟨[], by decide, [], by decide, _, rfl, rfl⟩
  · next c rest _ =>
    split
    · next hlead =>
      simp only [Bool.or_eq_true, decide_eq_true_eq] at hlead
      rcases hlead with hsign | hpoint
      · exact ⟨[c], by simpa using hsign, [], by decide, rest, rfl, rfl⟩
      · subst hpoint
        exact ⟨[], by decide, ['.'], by decide, rest, rfl, rfl⟩
    · exact ⟨[], by decide, [], by decide, _, rfl, rfl⟩
  · exact ⟨[], by decide, [], by decide, [], rfl, rfl⟩

theorem exists_of_bodyLength? (h : bodyLength? text = some length) :
    ∃ whole separator fraction back, text = whole ++ (separator ++ fraction) ++ back ∧
      length = (whole ++ (separator ++ fraction)).length ∧ whole ≠ [] ∧
      (∀ c ∈ whole ++ fraction, isDigit c = true) ∧ separator ∈ [[], ['.'], ['/']] ∧
      AtBoundary (whole ++ (separator ++ fraction)) back := by
  obtain ⟨whole, rest, rfl, hwhole, hstop⟩ := Text.exists_run isDigit text
  simp only [bodyLength?, Text.takeWhile_append_of_stops hwhole hstop, List.drop_left] at h
  split at h
  · cases h
  · next hlength =>
    have hne : whole ≠ [] := fun hnil => hlength (congrArg List.length hnil)
    have hdigits : ∀ c ∈ whole ++ [], isDigit c = true := by simpa using hwhole
    split at h
    · next c rest' =>
      split at h
      · next hseparator =>
        simp only [Bool.or_eq_true, decide_eq_true_eq] at hseparator
        have hmark : [c] ∈ [[], ['.'], ['/']] := by simpa using hseparator
        have hword : isWord c = false := by rcases hseparator with rfl | rfl <;> decide
        obtain ⟨fraction, back, rfl, hfraction, hend⟩ := Text.exists_run isDigit rest'
        rw [Text.takeWhile_append_of_stops hfraction hend, List.drop_left] at h
        split at h
        · next hclosed =>
          cases h
          simp only [Bool.and_eq_true, decide_eq_true_eq, Bool.not_eq_true'] at hclosed
          have hnefraction : fraction ≠ [] := List.length_pos_iff.mp hclosed.1
          refine ⟨whole, [c], fraction, back, by simp, ?_, hne,
            List.forall_mem_append.mpr ⟨hwhole, hfraction⟩, hmark, ?_⟩
          · simp only [List.length_append, List.length_cons, List.length_nil]
            omega
          · rw [← List.append_assoc, atBoundary_append_iff hnefraction]
            exact (atBoundary_digits_iff hnefraction hfraction).mpr hclosed.2
        · split at h
          · next hopen =>
            cases h
            refine ⟨whole, [c], [], fraction ++ back, by simp, by simp, hne, hdigits, hmark, ?_⟩
            rw [List.append_nil, atBoundary_append_iff (List.cons_ne_nil c []), AtBoundary, hopen]
            simp [continuesWord, hword]
          · cases h
            have hback : continuesWord isWord (c :: (fraction ++ back)).head? = false := hword
            refine ⟨whole, [], [], c :: (fraction ++ back), by simp, by simp, hne, hdigits,
              by decide, ?_⟩
            simpa using (atBoundary_digits_iff hne hwhole).mpr hback
      · split at h
        · cases h
        · next hword =>
          cases h
          have hback : continuesWord isWord (c :: rest').head? = false := by
            simpa [continuesWord] using hword
          refine ⟨whole, [], [], c :: rest', by simp, by simp, hne, hdigits, by decide, ?_⟩
          simpa using (atBoundary_digits_iff hne hwhole).mpr hback
    · cases h
      refine ⟨whole, [], [], [], by simp, by simp, hne, hdigits, by decide, ?_⟩
      have hback : continuesWord isWord ([] : List Char).head? = false := rfl
      simpa using (atBoundary_digits_iff hne hwhole).mpr hback

theorem exists_of_numberLength? (h : numberLength? before text = some length) :
    ∃ (n : NumberSpan) (back : List Char), text = n.chars ++ back ∧ length = n.chars.length ∧
      AtBoundary n.chars back := by
  obtain ⟨sign, hsign, point, hpoint, rest, rfl, hlead⟩ := exists_of_leadLength text
  rw [numberLength?, hlead, List.drop_left] at h
  split at h
  · cases h
  · obtain ⟨inner, hinner, rfl⟩ := Option.map_eq_some_iff.mp h
    obtain ⟨whole, separator, fraction, back, rfl, rfl, hne, hdigits, hseparator, hboundary⟩ :=
      exists_of_bodyLength? hinner
    refine ⟨⟨sign, point, whole, separator, fraction, hsign, hpoint, hseparator, hne, hdigits⟩,
      back, (List.append_assoc ..).symm, List.length_append.symm, ?_⟩
    exact (atBoundary_append_iff (List.append_ne_nil_of_left_ne_nil hne _) _ _).mpr hboundary

theorem exists_of_hasNumberShape (h : hasNumberShape text = true) :
    ∃ n : NumberSpan, text = n.chars := by
  obtain ⟨sign, hsign, point, hpoint, rest, rfl, hlead⟩ := exists_of_leadLength text
  obtain ⟨whole, rest, rfl, hwhole, hstop⟩ := Text.exists_run isDigit rest
  simp only [hasNumberShape, hlead, List.drop_left, Text.takeWhile_append_of_stops hwhole hstop,
    Text.dropWhile_append_of_stops hwhole hstop, Bool.and_eq_true, Bool.not_eq_true',
    List.isEmpty_eq_false_iff] at h
  obtain ⟨hne, hrest⟩ := h
  cases rest with
  | nil =>
    refine ⟨⟨sign, point, whole, [], [], hsign, hpoint, by decide, hne, by simpa using hwhole⟩, ?_⟩
    simp [NumberSpan.chars]
  | cons c fraction =>
    simp only [Bool.and_eq_true, Bool.or_eq_true, decide_eq_true_eq, List.all_eq_true] at hrest
    obtain ⟨hseparator, hfraction⟩ := hrest
    refine ⟨⟨sign, point, whole, [c], fraction, hsign, hpoint, by simpa using hseparator, hne,
      List.forall_mem_append.mpr ⟨hwhole, hfraction⟩⟩, ?_⟩
    simp [NumberSpan.chars]

theorem of_shorterNumber? {bound : Nat} (h : shorterNumber? text bound = some length) :
    length < bound ∧ hasNumberShape (text.take length) = true ∧
      isPlainBoundary (text.take length).getLast? (text.drop length).head? = true ∧
      beforeComma (text.drop length) = false := by
  induction bound with
  | zero => cases h
  | succ bound ih =>
    simp only [shorterNumber?] at h
    split at h
    · next hfits =>
      cases h
      simp only [Bool.and_eq_true, Bool.not_eq_true'] at hfits
      exact ⟨Nat.lt_succ_self _, hfits.1.1, hfits.1.2, hfits.2⟩
    · obtain ⟨hlt, hrest⟩ := ih h
      exact ⟨Nat.lt_succ_of_lt hlt, hrest⟩

theorem exists_of_numberMatcher (h : numberMatcher before text = some length) :
    ∃ (n : NumberSpan) (back : List Char), text = n.chars ++ back ∧ length = n.chars.length ∧
      AtBoundary n.chars back ∧ beforeComma back = false := by
  unfold numberMatcher at h
  split at h
  · next longest hlongest =>
    obtain ⟨n, back, rfl, rfl, hboundary⟩ := exists_of_numberLength? hlongest
    rw [List.drop_left] at h
    split at h
    · obtain ⟨hlt, hshape, hends, hcomma⟩ := of_shorterNumber? h
      obtain ⟨shorter, hshorter⟩ := exists_of_hasNumberShape hshape
      have htext := List.take_append_drop length (n.chars ++ back)
      have hlength : length = shorter.chars.length := by
        rw [← hshorter, List.length_take, List.length_append]
        omega
      rw [hshorter] at htext hends
      refine ⟨shorter, (n.chars ++ back).drop length, htext.symm, hlength, ?_, hcomma⟩
      exact (isPlainBoundary_iff (hlength ▸ hlt) htext).mp hends
    · next hcomma =>
      cases h
      exact ⟨n, back, rfl, rfl, hboundary, by simpa using hcomma⟩
  · cases h

theorem exists_of_moreNumbers (fuel : Nat) (text : List Char) :
    ∃ (ns : List NumberSpan) (back : List Char),
      text = ns.flatMap ([',', ' '] ++ ·.chars) ++ back ∧
        moreNumbers fuel text = (ns.flatMap ([',', ' '] ++ ·.chars)).length := by
  fun_induction moreNumbers fuel text with
  | case1 text => exact ⟨[], text, rfl, rfl⟩
  | case2 fuel rest length hlength ih =>
    obtain ⟨n, back, rfl, rfl, -⟩ := exists_of_numberLength? hlength
    rw [List.drop_left] at ih ⊢
    obtain ⟨ns, back', rfl, hmore⟩ := ih
    refine ⟨n :: ns, back', by simp, ?_⟩
    rw [hmore, List.flatMap_cons, List.length_append, List.length_append,
      Nat.add_comm n.chars.length]
    rfl
  | case3 fuel rest => exact ⟨[], _, rfl, rfl⟩
  | case4 fuel text => exact ⟨[], _, rfl, rfl⟩

theorem exists_of_numberListMatcher (h : numberListMatcher before text = some length) :
    ∃ (first second : NumberSpan) (more : List NumberSpan) (back : List Char),
      text = NumberSpan.listed (first :: second :: more) ++ back ∧
        length = (NumberSpan.listed (first :: second :: more)).length := by
  unfold numberListMatcher at h
  split at h
  · next head hhead =>
    obtain ⟨first, rest, rfl, rfl, -⟩ := exists_of_numberLength? hhead
    obtain ⟨ns, back, rfl, hmore⟩ := exists_of_moreNumbers (first.chars ++ rest).length rest
    simp only [List.drop_left, hmore] at h
    split at h
    · cases h
    · next hpos =>
      cases h
      cases ns with
      | nil => exact absurd rfl hpos
      | cons second more =>
        refine ⟨first, second, more, back, ?_, ?_⟩
        · rw [NumberSpan.listed_cons, List.append_assoc]
        · rw [NumberSpan.listed_cons, List.length_append]
  · cases h

end Matching
end TablePhrase.Lifting

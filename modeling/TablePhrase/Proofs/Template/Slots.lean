import Mathlib.Logic.Function.Basic
import TablePhrase.Entity.Counts
import TablePhrase.Proofs.Entity.Placeholder

/-!
A template as a list of pieces: its characters, and a slot for each of its placeholders, numbered
among those of its kind. Slots are filled with texts; those that are left show their placeholder.
-/

namespace TablePhrase

/-- A character of a template, or a placeholder with its number among those of its kind. -/
inductive Piece
  | char (c : Char)
  | slot (kind : EntityKind) (index : Nat)
deriving DecidableEq

abbrev Filling : Type :=
  EntityKind → Nat → Option String

namespace Filling

def empty : Filling :=
  fun _ _ => none

def put (filling : Filling) (kind : EntityKind) (index : Nat) (text : String) : Filling :=
  fun k i => if k = kind ∧ i = index then some text else filling k i

end Filling

def Piece.shown (filling : Filling) : Piece → List Char
  | char c => [c]
  | slot kind index => ((filling kind index).getD kind.placeholder).toList

namespace Template

open EntityKind Text

def kindAt? (text : List Char) : Option EntityKind :=
  groundOrder.find? fun kind => kind.placeholder.toList.isPrefixOf text

/-- The pieces of a text behind that many placeholders of each kind. -/
def piecesFrom (seen : EntityKind → Nat) : List Char → List Piece
  | [] => []
  | c :: cs =>
    match kindAt? (c :: cs) with
    | some kind =>
      .slot kind (seen kind) :: piecesFrom (Function.update seen kind (seen kind + 1))
        (cs.drop (kind.placeholder.toList.length - 1))
    | none => .char c :: piecesFrom seen cs
termination_by text => text.length

def pieces (text : List Char) : List Piece :=
  piecesFrom (fun _ => 0) text

def fill (filling : Filling) (ps : List Piece) : List Char :=
  ps.flatMap (Piece.shown filling)

section Pieces
variable {kind : EntityKind} {text rest : List Char} {seen : EntityKind → Nat}

theorem kindAt?_eq_none_iff :
    kindAt? text = none ↔ ∀ kind : EntityKind, ¬ kind.placeholder.toList <+: text := by
  rw [kindAt?, List.find?_eq_none]
  constructor
  · intro h kind hstarts
    exact h kind kind.mem_groundOrder (List.isPrefixOf_iff_prefix.mpr hstarts)
  · intro h kind _ hstarts
    exact h kind (List.isPrefixOf_iff_prefix.mp hstarts)

theorem prefix_of_kindAt? (h : kindAt? text = some kind) : kind.placeholder.toList <+: text := by
  have hstarts : kind.placeholder.toList.isPrefixOf text = true :=
    List.find?_some (p := fun kind : EntityKind => kind.placeholder.toList.isPrefixOf text) h
  exact List.isPrefixOf_iff_prefix.mp hstarts

theorem kindAt?_placeholder_append : kindAt? (kind.placeholder.toList ++ rest) = some kind := by
  cases hfound : kindAt? (kind.placeholder.toList ++ rest) with
  | none => exact absurd (List.prefix_append _ rest) (kindAt?_eq_none_iff.mp hfound kind)
  | some other =>
    by_cases hne : kind = other
    · rw [hne]
    · exact absurd (prefix_of_kindAt? hfound) (not_prefix_other_placeholder hne rest)

/-- A text is empty, or begins with a placeholder, or with a character that begins none. -/
theorem text_induction {P : List Char → Prop} (nil : P [])
    (placeholder : ∀ (kind : EntityKind) (rest : List Char), P rest →
      P (kind.placeholder.toList ++ rest))
    (char : ∀ (c : Char) (cs : List Char), kindAt? (c :: cs) = none → P cs → P (c :: cs))
    (text : List Char) : P text := by
  induction hlength : text.length using Nat.strong_induction_on generalizing text with
  | _ n ih =>
    subst hlength
    cases text with
    | nil => exact nil
    | cons c cs =>
      cases hkind : kindAt? (c :: cs) with
      | none => exact char c cs hkind (ih cs.length (by simp) cs rfl)
      | some kind =>
        obtain ⟨rest, hrest⟩ := prefix_of_kindAt? hkind
        have hpos : 0 < kind.placeholder.toList.length :=
          List.length_pos_iff.mpr (placeholder_ne_nil kind)
        have hshorter : rest.length < (c :: cs).length := by
          rw [← hrest, List.length_append]
          omega
        rw [← hrest]
        exact placeholder kind rest (ih _ hshorter rest rfl)

theorem piecesFrom_placeholder_append :
    piecesFrom seen (kind.placeholder.toList ++ rest) =
      .slot kind (seen kind) :: piecesFrom (Function.update seen kind (seen kind + 1)) rest := by
  have hkind : kindAt? (kind.placeholder.toList ++ rest) = some kind := kindAt?_placeholder_append
  obtain ⟨c, cs, hcs⟩ := List.exists_cons_of_ne_nil (placeholder_ne_nil kind)
  rw [hcs, List.cons_append] at hkind ⊢
  rw [piecesFrom, hkind]
  simp only [hcs, List.length_cons, Nat.add_sub_cancel, List.drop_left]

theorem piecesFrom_cons {c : Char} {cs : List Char} (h : kindAt? (c :: cs) = none) :
    piecesFrom seen (c :: cs) = .char c :: piecesFrom seen cs := by
  rw [piecesFrom, h]

theorem fill_append (filling : Filling) (front back : List Piece) :
    fill filling (front ++ back) = fill filling front ++ fill filling back :=
  List.flatMap_append

theorem fill_cons (filling : Filling) (p : Piece) (ps : List Piece) :
    fill filling (p :: ps) = p.shown filling ++ fill filling ps :=
  List.flatMap_cons

theorem fill_empty_piecesFrom (seen : EntityKind → Nat) (text : List Char) :
    fill .empty (piecesFrom seen text) = text := by
  induction text using text_induction generalizing seen with
  | nil => rw [piecesFrom]; rfl
  | placeholder kind rest ih =>
    rw [piecesFrom_placeholder_append, fill_cons, ih]
    rfl
  | char c cs hkind ih =>
    rw [piecesFrom_cons hkind, fill_cons, ih]
    rfl

theorem count_cons_of_kindAt? {c : Char} {cs : List Char} (h : kindAt? (c :: cs) = none)
    (kind : EntityKind) :
    count kind.placeholder.toList (c :: cs) = count kind.placeholder.toList cs := by
  have hstarts := isPrefixOf_eq_false (kindAt?_eq_none_iff.mp h kind)
  rw [count_cons (beginsOnce_placeholder kind), hstarts, if_neg Bool.false_ne_true, Nat.zero_add]

theorem count_slot_piecesFrom (seen : EntityKind → Nat) (text : List Char) (kind : EntityKind)
    (index : Nat) :
    (piecesFrom seen text).count (.slot kind index) =
      if seen kind ≤ index ∧ index < seen kind + count kind.placeholder.toList text then 1
      else 0 := by
  induction text using text_induction generalizing seen with
  | nil =>
    rw [piecesFrom, count, List.count_nil, if_neg (by omega)]
  | placeholder other rest ih =>
    rw [piecesFrom_placeholder_append, List.count_cons, ih, count_placeholder_append]
    by_cases hkind : kind = other
    · subst hkind
      simp only [Function.update_self, if_true, beq_iff_eq, Piece.slot.injEq, true_and]
      split <;> split <;> split <;> omega
    · have hne : (Piece.slot other (seen other) == .slot kind index) = false := by
        simp [Ne.symm hkind]
      rw [hne, Function.update_of_ne hkind, if_neg hkind, Nat.zero_add]
      rfl
  | char c cs hkind ih =>
    rw [piecesFrom_cons hkind, count_cons_of_kindAt? hkind, List.count_cons, ih]
    rfl

def before (ps : List Piece) (kind : EntityKind) (index : Nat) : List Piece :=
  ps.takeWhile (· ≠ .slot kind index)

theorem exists_before {ps : List Piece} {index : Nat} (h : ps.count (.slot kind index) = 1) :
    ∃ back, ps = before ps kind index ++ .slot kind index :: back ∧
      .slot kind index ∉ before ps kind index ∧ .slot kind index ∉ back := by
  have hmem : .slot kind index ∈ ps := List.count_pos_iff.mp (by omega)
  obtain ⟨front, back, rfl, hfront⟩ := List.eq_append_cons_of_mem hmem
  have hbefore : before (front ++ .slot kind index :: back) kind index = front := by
    rw [before, List.takeWhile_append_of_pos, List.takeWhile_cons_of_neg, List.append_nil]
    · simp
    · intro p hp
      simpa using fun heq : p = .slot kind index => hfront (heq ▸ hp)
  rw [List.count_append, List.count_eq_zero_of_not_mem hfront, List.count_cons_self] at h
  refine ⟨back, ?_, ?_, List.count_eq_zero.mp (by omega)⟩
  · rw [hbefore]
  · rwa [hbefore]

theorem le_of_slot_mem {index : Nat} (h : .slot kind index ∈ piecesFrom seen text) :
    seen kind ≤ index := by
  have hpos := List.count_pos_iff.mpr h
  rw [count_slot_piecesFrom] at hpos
  split at hpos
  · next hbounds => exact hbounds.1
  · cases hpos

theorem slots_increase (seen : EntityKind → Nat) (text : List Char) :
    (piecesFrom seen text).Pairwise fun p q =>
      ∀ kind i j, p = .slot kind i → q = .slot kind j → i < j := by
  induction text using text_induction generalizing seen with
  | nil =>
    rw [piecesFrom]
    exact .nil
  | placeholder other rest ih =>
    rw [piecesFrom_placeholder_append]
    refine .cons ?_ (ih _)
    rintro q hq kind i j ⟨⟩ rfl
    have hle := le_of_slot_mem hq
    rw [Function.update_self] at hle
    omega
  | char c cs hkind ih =>
    rw [piecesFrom_cons hkind]
    exact .cons (fun _ _ _ _ _ hchar => nomatch hchar) (ih _)

def CharsClear : List Piece → Prop
  | [] => True
  | .char c :: ps => kindAt? (c :: fill .empty ps) = none ∧ CharsClear ps
  | .slot _ _ :: ps => CharsClear ps

theorem charsClear_piecesFrom (seen : EntityKind → Nat) (text : List Char) :
    CharsClear (piecesFrom seen text) := by
  induction text using text_induction generalizing seen with
  | nil =>
    rw [piecesFrom]
    trivial
  | placeholder other rest ih =>
    rw [piecesFrom_placeholder_append]
    exact ih _
  | char c cs hkind ih =>
    rw [piecesFrom_cons hkind]
    refine ⟨?_, ih seen⟩
    rwa [fill_empty_piecesFrom]

theorem CharsClear.of_append {front back : List Piece} (h : CharsClear (front ++ back)) :
    CharsClear front := by
  induction front with
  | nil => trivial
  | cons p front ih =>
    cases p with
    | slot kind index => exact ih h
    | char c =>
      obtain ⟨hc, hrest⟩ : kindAt? (c :: fill .empty (front ++ back)) = none ∧ CharsClear _ := h
      refine ⟨?_, ih hrest⟩
      rw [kindAt?_eq_none_iff] at hc ⊢
      intro kind hstarts
      apply hc kind
      rw [fill_append, ← List.cons_append]
      exact hstarts.trans (List.prefix_append _ _)

/-- The slots of the pieces do not go on with a placeholder of the kind that has begun before. -/
def SlotsBreak (kind : EntityKind) (filling : Filling) (ps : List Piece) : Prop :=
  ∀ k i, .slot k i ∈ ps →
    ∃ c ∈ ((Piece.slot k i).shown filling).head?, c ∉ kind.placeholder.toList.tail

theorem SlotsBreak.of_cons {filling : Filling} {p : Piece} {ps : List Piece}
    (h : SlotsBreak kind filling (p :: ps)) : SlotsBreak kind filling ps :=
  fun k i hmem => h k i (List.mem_cons_of_mem p hmem)

theorem prefix_fill_empty {filling : Filling} {ps : List Piece} {needle : List Char}
    (hneedle : needle ⊆ kind.placeholder.toList.tail) (hslots : SlotsBreak kind filling ps)
    (h : needle <+: fill filling ps) : needle <+: fill .empty ps := by
  induction ps generalizing needle with
  | nil => exact h
  | cons p ps ih =>
    cases needle with
    | nil => exact List.nil_prefix
    | cons d needle =>
      have hd : d ∈ kind.placeholder.toList.tail := hneedle List.mem_cons_self
      cases p with
      | char c =>
        obtain ⟨rfl, hrest⟩ := List.cons_prefix_cons.mp h
        have hsub := List.Subset.trans (List.subset_cons_self d needle) hneedle
        exact List.cons_prefix_cons.mpr ⟨rfl, ih hsub hslots.of_cons hrest⟩
      | slot k i =>
        obtain ⟨c, hhead, hc⟩ := hslots k i List.mem_cons_self
        obtain ⟨shown, hshown⟩ := List.head?_eq_some_iff.mp hhead
        rw [fill_cons, hshown] at h
        obtain ⟨rfl, -⟩ := List.cons_prefix_cons.mp h
        exact absurd hd hc

theorem not_infix_fill {filling : Filling} {ps : List Piece} (hclear : CharsClear ps)
    (hbreak : .char '<' ∉ ps ∨ SlotsBreak kind filling ps)
    (hslots : ∀ k i, .slot k i ∈ ps → ∀ rest,
      Avoids kind.placeholder.toList ((Piece.slot k i).shown filling) rest) :
    ¬ kind.placeholder.toList <:+: fill filling ps := by
  rw [← count_eq_zero_iff (beginsOnce_placeholder kind)]
  induction ps with
  | nil => exact count.eq_1 _
  | cons p ps ih =>
    have hbreak' : .char '<' ∉ ps ∨ SlotsBreak kind filling ps :=
      hbreak.imp List.not_mem_of_not_mem_cons SlotsBreak.of_cons
    have hslots' := fun k i hmem => hslots k i (List.mem_cons_of_mem _ hmem)
    cases p with
    | char c =>
      obtain ⟨hc, hclear⟩ := hclear
      have hstarts : ¬ kind.placeholder.toList <+: c :: fill filling ps := by
        intro hstarts
        apply kindAt?_eq_none_iff.mp hc kind
        rw [placeholder_toList] at hstarts ⊢
        obtain ⟨rfl, hrest⟩ := List.cons_prefix_cons.mp hstarts
        refine List.cons_prefix_cons.mpr ⟨rfl, ?_⟩
        rcases hbreak with hstray | hbreak
        · exact absurd List.mem_cons_self hstray
        · refine prefix_fill_empty ?_ hbreak.of_cons hrest
          rw [placeholder_toList]
          exact List.Subset.refl _
      rw [fill_cons]
      show count _ (c :: fill filling ps) = 0
      rw [count_cons (beginsOnce_placeholder kind), isPrefixOf_eq_false hstarts,
        ih hclear hbreak' hslots']
      rfl
    | slot k i =>
      rw [fill_cons, count_append_of_avoids (hslots k i List.mem_cons_self _),
        ih hclear hbreak' hslots']

end Pieces
end Template
end TablePhrase

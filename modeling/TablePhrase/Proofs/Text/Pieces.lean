import Mathlib.Data.List.TakeWhile
import TablePhrase.Text.Search

/-!
Texts made of pieces with single spaces between them.
-/

namespace TablePhrase.Text

variable {τ : Type}

/-- The text is at its end, or a space comes next. -/
def AtBreak (text : List Char) : Prop :=
  ∀ c ∈ text.head?, c = ' '

def trailing (piece : τ → List Char) (ts : List τ) : List Char :=
  ts.flatMap fun t => ' ' :: piece t

def spaced (piece : τ → List Char) : List τ → List Char
  | [] => []
  | t :: ts => piece t ++ trailing piece ts

theorem trailing_cons (piece : τ → List Char) (t : τ) (ts : List τ) :
    trailing piece (t :: ts) = ' ' :: (piece t ++ trailing piece ts) :=
  rfl

theorem append_trailing_cons (front : List Char) (piece : τ → List Char) (t : τ) (ts : List τ) :
    front ++ trailing piece (t :: ts) = front ++ ' ' :: piece t ++ trailing piece ts := by
  rw [trailing_cons, List.append_assoc, List.cons_append]

theorem tail_trailing (piece : τ → List Char) (ts : List τ) :
    (trailing piece ts).tail = spaced piece ts := by
  cases ts <;> rfl

theorem spaced_map {σ : Type} (piece : τ → List Char) (f : σ → τ) (xs : List σ) :
    spaced piece (xs.map f) = spaced (fun x => piece (f x)) xs := by
  cases xs with
  | nil => rfl
  | cons x xs => rw [List.map_cons, spaced, spaced, trailing, trailing, List.flatMap_map]

theorem mem_spaced {piece : τ → List Char} {ts : List τ} {c : Char} (h : c ∈ spaced piece ts) :
    c = ' ' ∨ ∃ t ∈ ts, c ∈ piece t := by
  cases ts with
  | nil => cases h
  | cons t ts =>
    rcases List.mem_append.mp h with h | h
    · exact .inr ⟨t, List.mem_cons_self, h⟩
    · obtain ⟨u, hu, h⟩ := List.mem_flatMap.mp h
      rcases List.mem_cons.mp h with h | h
      · exact .inl h
      · exact .inr ⟨u, List.mem_cons_of_mem t hu, h⟩

theorem intercalate_cons (separator part : List Char) (parts : List (List Char)) :
    separator.intercalate (part :: parts) = part ++ parts.flatMap (separator ++ ·) := by
  induction parts generalizing part with
  | nil => simp
  | cons next parts ih =>
    rw [List.intercalate_cons_cons, ih next, List.flatMap_cons, List.append_assoc,
      List.append_assoc]

theorem intercalate_space (piece : τ → List Char) (ts : List τ) :
    [' '].intercalate (ts.map piece) = spaced piece ts := by
  cases ts with
  | nil => rfl
  | cons t ts =>
    rw [List.map_cons, intercalate_cons, List.flatMap_map, spaced, trailing]
    rfl

theorem spaced_congr {piece other : τ → List Char} {ts : List τ}
    (h : ∀ t ∈ ts, piece t = other t) : spaced piece ts = spaced other ts := by
  rw [← intercalate_space, List.map_congr_left h, intercalate_space]

theorem toList_join_space (piece : τ → List Char) (ts : List τ) :
    (join " " (ts.map fun t => String.ofList (piece t))).toList = spaced piece ts := by
  have hpieces : (ts.map fun t => String.ofList (piece t)).map String.toList = ts.map piece := by
    simp
  rw [join, String.toList_intercalate, hpieces]
  exact intercalate_space piece ts

theorem length_le_length_flatMap (separator : List Char) (hne : separator ≠ [])
    (part : τ → List Char) (ts : List τ) :
    ts.length ≤ (ts.flatMap (separator ++ part ·)).length := by
  have hpos : 0 < separator.length := List.length_pos_iff.mpr hne
  induction ts with
  | nil => exact Nat.le_refl 0
  | cons t ts ih =>
    rw [List.flatMap_cons, List.length_append, List.length_append, List.length_cons]
    omega

theorem atBreak_nil : AtBreak [] := nofun

theorem atBreak_space (text : List Char) : AtBreak (' ' :: text) := by
  intro c hc
  exact (Option.some.inj hc).symm

theorem atBreak_trailing (piece : τ → List Char) (ts : List τ) : AtBreak (trailing piece ts) := by
  cases ts with
  | nil => exact atBreak_nil
  | cons t ts => exact atBreak_space _

theorem AtBreak.eq_nil_or_space {text : List Char} (h : AtBreak text) :
    text = [] ∨ ∃ rest, text = ' ' :: rest := by
  cases text with
  | nil => exact .inl rfl
  | cons c rest =>
    have hc : c = ' ' := h c rfl
    exact .inr ⟨rest, by rw [hc]⟩

theorem AtBreak.stops {text : List Char} (h : AtBreak text) {p : Char → Bool}
    (hspace : p ' ' = false) : ∀ c ∈ text.head?, p c = false := by
  intro c hc
  rw [h c hc]
  exact hspace

theorem AtBreak.mem_of_mem_takeWhile {rest : List Char} (h : AtBreak rest) {p : Char → Bool}
    (hspace : p ' ' = false) {text : List Char} {c : Char}
    (hc : c ∈ (text ++ rest).takeWhile p) : c ∈ text := by
  induction text with
  | nil =>
    rcases h.eq_nil_or_space with rfl | ⟨rest, rfl⟩
    · cases hc
    · rw [List.nil_append, List.takeWhile_cons, hspace] at hc
      cases hc
  | cons d text ih =>
    rw [List.cons_append, List.takeWhile_cons] at hc
    split at hc
    · rcases List.mem_cons.mp hc with rfl | hc
      · exact List.mem_cons_self
      · exact List.mem_cons_of_mem d (ih hc)
    · cases hc

section Run
variable {p : Char → Bool} {run rest : List Char}

theorem exists_run (p : Char → Bool) (text : List Char) :
    ∃ run rest, text = run ++ rest ∧ (∀ c ∈ run, p c = true) ∧ ∀ c ∈ rest.head?, p c = false := by
  refine ⟨text.takeWhile p, text.dropWhile p, List.takeWhile_append_dropWhile.symm,
    fun c hc => List.mem_takeWhile_imp hc, fun c hc => ?_⟩
  have hhead := List.head?_dropWhile_not p text
  rwa [hc] at hhead

theorem stops_append {body : List Char} (hne : body ≠ []) (hbody : ∀ c ∈ body, p c = false) :
    ∀ c ∈ (body ++ rest).head?, p c = false := by
  intro c hc
  cases body with
  | nil => exact absurd rfl hne
  | cons d body =>
    cases hc
    exact hbody c List.mem_cons_self

theorem takeWhile_append_of_stops (hrun : ∀ c ∈ run, p c = true)
    (hstop : ∀ c ∈ rest.head?, p c = false) : (run ++ rest).takeWhile p = run := by
  rw [List.takeWhile_append_of_pos hrun]
  cases rest with
  | nil => simp
  | cons c rest => simp [hstop c rfl]

theorem dropWhile_append_of_stops (hrun : ∀ c ∈ run, p c = true)
    (hstop : ∀ c ∈ rest.head?, p c = false) : (run ++ rest).dropWhile p = rest := by
  rw [List.dropWhile_append_of_pos hrun]
  cases rest with
  | nil => rfl
  | cons c rest => simp [hstop c rfl]

theorem takeWhile_append_of_length_le {text : List Char}
    (h : ((text ++ rest).takeWhile p).length ≤ text.length) :
    (text ++ rest).takeWhile p = text.takeWhile p ∧
      (text ++ rest).dropWhile p = text.dropWhile p ++ rest := by
  induction text with
  | nil =>
    have hnil : rest.takeWhile p = [] := List.eq_nil_of_length_eq_zero (Nat.le_zero.mp h)
    have hrest := List.takeWhile_append_dropWhile (p := p) (l := rest)
    rw [hnil] at hrest
    exact ⟨hnil, hrest⟩
  | cons c text ih =>
    cases hc : p c with
    | true =>
      rw [List.cons_append, List.takeWhile_cons_of_pos hc] at h
      obtain ⟨htake, hdrop⟩ := ih (Nat.le_of_succ_le_succ h)
      rw [List.cons_append, List.takeWhile_cons_of_pos hc, List.takeWhile_cons_of_pos hc,
        List.dropWhile_cons_of_pos hc, List.dropWhile_cons_of_pos hc]
      exact ⟨congrArg (c :: ·) htake, hdrop⟩
    | false => simp [hc]

end Run
end TablePhrase.Text

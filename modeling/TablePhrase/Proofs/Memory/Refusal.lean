import TablePhrase.Proofs.Memory.Run

/-!
Writes that fail. Memory is changed before the file is written, so a failed write leaves memory
ahead of the file until the next write that succeeds. A key that is not remembered is forgotten
without any write, and its success tells nothing about the file.
-/

namespace TablePhrase.Store

/-- A request and, if the files refuse to be written for its time, the files as they then are. -/
structure Attempt where
  request : Request
  refusing : Option Directory

/-- Files that refuse do so whatever is written. -/
def Attempt.Refuses (a : Attempt) (path : String) : Prop :=
  ∀ files ∈ a.refusing, ∀ content, (files.save path content).2 = false

def Attempt.perform (a : Attempt) (s : Store) : Except StoreError Bool × Store :=
  match a.refusing with
  | none => a.request.perform s
  | some files =>
    let (answer, t) := a.request.perform { s with directory := files }
    (answer, { t with directory := s.directory })

/-- A store, and whether a write has failed since the last one that succeeded. -/
structure Watched where
  store : Store
  isBehind : Bool

namespace Watched

def after (w : Watched) (a : Attempt) : Watched where
  store := (a.perform w.store).2
  isBehind :=
    match (a.perform w.store).1 with
    | .ok true => false
    | .ok false => w.isBehind
    | .error _ => true

def afterAll (opened : Store) (attempts : List Attempt) : Watched :=
  attempts.foldl after ⟨opened, false⟩

end Watched

section Attempt
variable {s t : Store} {r : Request} {a : Attempt} {answer : Bool}

theorem path_perform (r : Request) (s : Store) : (r.perform s).2.path = s.path := by
  cases hwrites : r.writes s.entries with
  | false => rw [perform_of_not_writes hwrites]
  | true => rw [perform_of_writes hwrites]

theorem isStorable_perform (hs : IsStorable s.entries) (hr : r.IsStorable) :
    IsStorable (r.perform s).2.entries := by
  cases hwrites : r.writes s.entries with
  | false => rwa [perform_of_not_writes hwrites]
  | true =>
    rw [perform_of_writes hwrites]
    exact isStorable_leaves hs hr

theorem Attempt.path_perform (a : Attempt) (s : Store) : (a.perform s).2.path = s.path := by
  unfold Attempt.perform
  split
  · exact Store.path_perform a.request s
  · next files _ => exact Store.path_perform a.request { s with directory := files }

theorem Attempt.isStorable_perform (hs : IsStorable s.entries) (hr : a.request.IsStorable) :
    IsStorable (a.perform s).2.entries := by
  unfold Attempt.perform
  split
  · exact Store.isStorable_perform hs hr
  · next files _ => exact Store.isStorable_perform (s := { s with directory := files }) hs hr

theorem Attempt.perform_of_refused {files : Directory} (hfiles : a.refusing = some files)
    (hrefuses : a.Refuses s.path) (hwrites : a.request.writes s.entries = true) :
    a.perform s =
      (.error (.inaccessible s.path), { s with entries := a.request.leaves s.entries }) := by
  have hrefused : (a.request.saved { s with directory := files }).2 = false :=
    hrefuses files hfiles _
  rw [Attempt.perform, hfiles]
  simp only [perform_of_writes (s := { s with directory := files }) hwrites, hrefused,
    Bool.false_eq_true, if_false]

theorem Attempt.of_perform_ok (hrefuses : a.Refuses s.path)
    (h : a.perform s = (.ok answer, t)) :
    (answer = false ∧ t = s ∧ a.request.writes s.entries = false) ∨
      (answer = true ∧ (a.request.saved s).2 = true ∧
        t = ⟨(a.request.saved s).1, s.path, a.request.leaves s.entries⟩) := by
  cases hwrites : a.request.writes s.entries with
  | false =>
    refine .inl ?_
    unfold Attempt.perform at h
    split at h
    · rw [perform_of_not_writes hwrites] at h
      cases h
      exact ⟨rfl, rfl, rfl⟩
    · next files _ =>
      rw [perform_of_not_writes (s := { s with directory := files }) hwrites] at h
      cases h
      exact ⟨rfl, rfl, rfl⟩
  | true =>
    refine .inr ?_
    cases hfiles : a.refusing with
    | some files =>
      rw [Attempt.perform_of_refused hfiles hrefuses hwrites] at h
      cases h
    | none =>
      rw [Attempt.perform, hfiles] at h
      simp only [perform_of_writes hwrites] at h
      cases hsaved : (a.request.saved s).2 with
      | false =>
        rw [hsaved] at h
        cases h
      | true =>
        rw [hsaved] at h
        cases h
        exact ⟨rfl, rfl, rfl⟩

end Attempt

section Run
variable {d : Directory} {path : String} {opened : Store} {attempts : List Attempt} {a : Attempt}

namespace Watched

/-- Memory and file go together as long as no write has failed since the last that succeeded. -/
structure InStep (path : String) (w : Watched) : Prop where
  path : w.store.path = path
  storable : IsStorable w.store.entries
  recorded : w.isBehind = false → w.store.IsRecorded

variable {w : Watched}

theorem path_foldl_after (w : Watched) (attempts : List Attempt) :
    (attempts.foldl after w).store.path = w.store.path := by
  induction attempts generalizing w with
  | nil => rfl
  | cons a attempts ih => exact (ih (w.after a)).trans (a.path_perform w.store)

theorem InStep.after (h : w.InStep path) (hrefuses : a.Refuses path)
    (hstorable : a.request.IsStorable) : (w.after a).InStep path where
  path := (a.path_perform w.store).trans h.path
  storable := Attempt.isStorable_perform h.storable hstorable
  recorded := by
    intro hbehind
    cases hanswer : (a.perform w.store).1 with
    | error e => simp [Watched.after, hanswer] at hbehind
    | ok answer =>
      have hok : a.perform w.store = (.ok answer, (w.after a).store) := Prod.ext hanswer rfl
      rcases Attempt.of_perform_ok (h.path ▸ hrefuses) hok with ⟨rfl, hsame, -⟩ | ⟨rfl, hsaved, hnew⟩
      · rw [hsame]
        exact h.recorded (by simpa [Watched.after, hanswer] using hbehind)
      · -- a write takes all of memory to the file, with what failed writes had left there
        rw [hnew]
        exact openAt_save (isStorable_leaves h.storable hstorable) hsaved

theorem InStep.foldl_after (h : w.InStep path) (hrefuses : ∀ a ∈ attempts, a.Refuses path)
    (hstorable : ∀ a ∈ attempts, a.request.IsStorable) :
    (attempts.foldl Watched.after w).InStep path := by
  induction attempts generalizing w with
  | nil => exact h
  | cons a attempts ih =>
    have hfirst :=
      h.after (hrefuses a List.mem_cons_self) (hstorable a List.mem_cons_self)
    exact ih hfirst (fun b hb => hrefuses b (List.mem_cons_of_mem a hb))
      fun b hb => hstorable b (List.mem_cons_of_mem a hb)

end Watched

/-- A success that follows any attempts on a store that was opened: if anything was to be written,
then the file tells the entries in memory; otherwise a key was to be forgotten that is not there, and
neither memory nor the files change. Where values can be read back, a store opened anew equals the
one in memory, except after such a key if the write before it failed. -/
theorem reopened_after_success {answer : Bool} {t : Store} (hopen : openAt d path = .ok opened)
    (hrefuses : ∀ b ∈ attempts ++ [a], b.Refuses path)
    (hok : a.perform (Watched.afterAll opened attempts).store = (.ok answer, t)) :
    (answer = true → t.directory.read? path = some (text t.entries)) ∧
    (answer = false → t = (Watched.afterAll opened attempts).store ∧
      ∃ key, a.request = .delete key ∧ t.entries.contains key = false) ∧
    (IsStorable opened.entries → (∀ b ∈ attempts ++ [a], b.request.IsStorable) →
      (answer = true ∨ (Watched.afterAll opened attempts).isBehind = false) →
        openAt t.directory path = .ok t) := by
  have hpath : (Watched.afterAll opened attempts).store.path = path :=
    (Watched.path_foldl_after ⟨opened, false⟩ attempts).trans (isRecorded_of_openAt hopen).1
  have hlast : a.Refuses path := hrefuses a (by simp)
  have hcases := Attempt.of_perform_ok (hpath ▸ hlast) hok
  refine ⟨?_, ?_, fun hs hstorable hstep => ?_⟩
  · rintro rfl
    rcases hcases with ⟨hanswer, -, -⟩ | ⟨-, hsaved, rfl⟩
    · cases hanswer
    · rw [← hpath]
      exact Directory.read?_of_save hsaved
  · rintro rfl
    rcases hcases with ⟨-, rfl, hwrites⟩ | ⟨hanswer, -, -⟩
    · refine ⟨rfl, ?_⟩
      cases hrequest : a.request with
      | save now items => simp [hrequest, Request.writes] at hwrites
      | reset => simp [hrequest, Request.writes] at hwrites
      | delete key =>
        rw [hrequest] at hwrites
        exact ⟨key, rfl, hwrites⟩
    · cases hanswer
  · have hstart : Watched.InStep path ⟨opened, false⟩ :=
      ⟨(isRecorded_of_openAt hopen).1, hs, fun _ => (isRecorded_of_openAt hopen).2⟩
    have hbefore : (Watched.afterAll opened attempts).InStep path :=
      hstart.foldl_after (fun b hb => hrefuses b (List.mem_append_left [a] hb))
        fun b hb => hstorable b (List.mem_append_left [a] hb)
    have hafter := hbefore.after hlast (hstorable a (by simp))
    have hstore : ((Watched.afterAll opened attempts).after a).store = t := by
      rw [Watched.after, hok]
    have hrecorded := hafter.recorded (by
      rcases hstep with rfl | hstep
      · simp [Watched.after, hok]
      · cases answer <;> simp [Watched.after, hok, hstep])
    rw [hstore] at hrecorded
    have htpath : t.path = path := hstore ▸ hafter.path
    rwa [IsRecorded, htpath] at hrecorded

def blocked : Directory :=
  ⟨[(["f"], .file "")]⟩

theorem save_blocked (content : String) : blocked.save "f/m.json" content = (blocked, false) := by
  have hmade : blocked.makeAll (Directory.start "f/m.json")
      (Directory.names "f/m.json").dropLast = (blocked, false) := by decide +kernel
  rw [Directory.save, hmade]
  rfl

theorem openAt_of_missing {d : Directory} {path : String} (h : d.contains path = false) :
    openAt d path = .ok ⟨d, path, .empty⟩ := by
  rw [openAt, h]
  rfl

theorem refuses_blocked (r : Request) : (Attempt.mk r (some blocked)).Refuses "f/m.json" := by
  rintro files ⟨⟩ content
  rw [save_blocked]

def ahead (d : Directory) : Store :=
  ⟨d, "f/m.json", KeyMap.empty.insert "k" ⟨.int 1, firstDay⟩⟩

theorem isStorable_save_int (key : String) (i : Int64) :
    (Request.save firstDay [(key, .int i)]).IsStorable := by
  intro item hitem
  rw [List.mem_singleton.mp hitem]
  exact ⟨rfl, rfl, (by decide : 0 + 2 ≤ Json.maxLevels)⟩

theorem reopened_after_success_saves :
    ∃ t, Attempt.perform ⟨.save firstDay [("j", .int 2)], none⟩
        (Watched.afterAll ⟨.empty, "f/m.json", .empty⟩
          [⟨.save firstDay [("k", .int 1)], some blocked⟩]).store = (.ok true, t) ∧
      t.value? "k" = some (.int 1) ∧ openAt t.directory "f/m.json" = .ok t := by
  have hopen : openAt .empty "f/m.json" = .ok ⟨.empty, "f/m.json", .empty⟩ :=
    openAt_of_missing (by decide +kernel)
  have hfirst : (Watched.afterAll ⟨.empty, "f/m.json", .empty⟩
      [⟨.save firstDay [("k", .int 1)], some blocked⟩]).store = ahead .empty :=
    congrArg Prod.snd (Attempt.perform_of_refused (s := ⟨.empty, "f/m.json", .empty⟩) rfl
      (refuses_blocked _) rfl)
  have hwritten : ((Request.save firstDay [("j", .int 2)]).saved (ahead .empty)).2 = true := by
    decide +kernel
  have hok : Attempt.perform ⟨.save firstDay [("j", .int 2)], none⟩ (ahead .empty) = _ :=
    perform_of_writes rfl
  rw [if_pos hwritten] at hok
  have hlast := (congrArg (Attempt.perform _) hfirst).trans hok
  refine ⟨_, hlast, rfl, (reopened_after_success hopen ?_ hlast).2.2 (fun _ he => nomatch he) ?_
    (.inl rfl)⟩
  · intro b hb
    rcases List.mem_cons.mp hb with rfl | hb
    · exact refuses_blocked _
    · rw [List.mem_singleton.mp hb]
      exact fun _ hfiles => nomatch hfiles
  · intro b hb
    rcases List.mem_cons.mp hb with rfl | hb
    · exact isStorable_save_int "k" 1
    · rw [List.mem_singleton.mp hb]
      exact isStorable_save_int "j" 2

def lost : KeyMap Remembered :=
  KeyMap.empty.insert "k" ⟨.null, firstDay⟩

theorem isStorable_lost : IsStorable lost := by
  intro e he
  rw [List.mem_singleton.mp he]
  exact ⟨rfl, rfl, by decide⟩

/-- Forgetting a key that is not there succeeds while memory is ahead of the file, and a value that
JSON cannot tell is another one when it is read. -/
theorem reopened_differs_after_success :
    (openAt blocked "f/m.json" = .ok ⟨blocked, "f/m.json", .empty⟩ ∧
      ∃ t, Attempt.perform ⟨.delete "other", none⟩
          (Watched.afterAll ⟨blocked, "f/m.json", .empty⟩
            [⟨.save firstDay [("k", .int 1)], none⟩]).store = (.ok false, t) ∧
        t.value? "k" = some (.int 1) ∧
        ∃ reopened, openAt t.directory "f/m.json" = .ok reopened ∧ reopened.value? "k" = none) ∧
    (openAt .empty "m.json" = .ok ⟨.empty, "m.json", .empty⟩ ∧
      ∃ t, Attempt.perform ⟨.save firstDay [("k", .float .nan)], none⟩ ⟨.empty, "m.json", .empty⟩ =
          (.ok true, t) ∧
        t.value? "k" = some (.float .nan) ∧
        ∃ reopened, openAt t.directory "m.json" = .ok reopened ∧
          reopened.value? "k" = some .null) := by
  have hblocked : openAt blocked "f/m.json" = .ok ⟨blocked, "f/m.json", .empty⟩ :=
    openAt_of_missing (by decide +kernel)
  have hempty : openAt .empty "m.json" = .ok ⟨.empty, "m.json", .empty⟩ :=
    openAt_of_missing (by decide +kernel)
  refine ⟨⟨hblocked, ?_⟩, hempty, ?_⟩
  · have hfirst : (Watched.afterAll ⟨blocked, "f/m.json", .empty⟩
        [⟨.save firstDay [("k", .int 1)], none⟩]).store = ahead blocked := by
      show ((Request.save firstDay [("k", .int 1)]).perform _).2 = _
      rw [perform_of_writes rfl, Request.saved, save_blocked]
      rfl
    have hok : (Request.delete "other").perform (ahead blocked) = _ := perform_of_not_writes rfl
    rw [hfirst]
    exact ⟨ahead blocked, hok, rfl, _, hblocked, rfl⟩
  · have hwritten : ((Request.save firstDay [("k", .float .nan)]).saved
        ⟨.empty, "m.json", .empty⟩).2 = true := by
      decide +kernel
    have hok : (Request.save firstDay [("k", .float .nan)]).perform ⟨.empty, "m.json", .empty⟩ = _ :=
      perform_of_writes rfl
    rw [if_pos hwritten] at hok
    exact ⟨_, hok, rfl, ⟨_, "m.json", lost⟩, openAt_save isStorable_lost hwritten, rfl⟩

end Run

end TablePhrase.Store

import ClassOutline.Catalog.Pool
import Mathlib.Data.List.Basic
import Mathlib.Logic.Relation

/-!
# Workers that share a list of tasks

A free worker may take the next task at any time, and any of the running tasks may be the next to end. Whatever happens,
no task is lost or done twice, and a run that cannot go on has done all of them. The orders in which such runs end
their tasks are those of the schedules of a pool.
-/
namespace ClassOutline.Catalog

/-- Workers at numbered tasks: those that nobody has taken, those that run, and the results in the order in which they
came. -/
structure Work (α β : Type) where
  waiting : List (α × Nat)
  running : List (α × Nat)
  finished : List (β × Nat)

namespace Work

variable {α β : Type} {workers : Nat} {f : α → β}

def start (tasks : List α) : Work α β :=
  ⟨tasks.zipIdx, [], []⟩

/-- A worker takes the next task, or one of the running tasks ends. -/
inductive Step (workers : Nat) (f : α → β) : Work α β → Work α β → Prop
  | take (task : α × Nat) (waiting running : List (α × Nat)) (finished : List (β × Nat))
      (free : running.length < workers) :
      Step workers f ⟨task :: waiting, running, finished⟩ ⟨waiting, running ++ [task], finished⟩
  | finish (waiting before : List (α × Nat)) (task : α × Nat) (after : List (α × Nat)) (finished : List (β × Nat)) :
      Step workers f ⟨waiting, before ++ task :: after, finished⟩
        ⟨waiting, before ++ after, finished ++ [(f task.1, task.2)]⟩

/-- Any number of steps. -/
def Run (workers : Nat) (f : α → β) : Work α β → Work α β → Prop :=
  Relation.ReflTransGen (Step workers f)

/-- Nothing more can happen. -/
def Ended (workers : Nat) (f : α → β) (w : Work α β) : Prop :=
  ∀ w', ¬ Step workers f w w'

/-- The results in the order of their tasks. -/
def delivered (w : Work α β) : List β :=
  (List.range w.finished.length).filterMap fun i => (w.finished.find? fun x => x.2 == i).map Prod.fst

/-! ### No task is lost -/

/-- What will have been finished if every task that waits or runs is. -/
def account (f : α → β) (w : Work α β) : List (β × Nat) :=
  w.finished ++ (w.running ++ w.waiting).map fun task => (f task.1, task.2)

theorem account_start (tasks : List α) : account f (start tasks) = (tasks.map f).zipIdx := by
  rw [List.zipIdx_map]
  simp [account, start, Prod.map]

private theorem Step.account_perm {w w' : Work α β} (h : Step workers f w w') : (account f w').Perm (account f w) := by
  cases h with
  | take task waiting running finished free => simp [account]
  | finish waiting before task after finished =>
    simp only [account, List.map_append, List.map_cons, List.append_assoc, List.cons_append, List.nil_append]
    exact List.Perm.append_left finished List.perm_middle.symm

private theorem Run.account_perm {w w' : Work α β} (h : Run workers f w w') : (account f w').Perm (account f w) := by
  induction h with
  | refl => exact List.Perm.refl _
  | tail _ hstep ih => exact hstep.account_perm.trans ih

private theorem ended_iff (hworkers : 0 < workers) (w : Work α β) :
    Ended workers f w ↔ w.waiting = [] ∧ w.running = [] := by
  obtain ⟨waiting, running, finished⟩ := w
  constructor
  · intro hended
    have hrunning : running = [] := by
      cases running with
      | nil => rfl
      | cons task running => exact absurd (Step.finish waiting [] task running finished) (hended _)
    subst hrunning
    cases waiting with
    | nil => exact ⟨rfl, rfl⟩
    | cons task waiting => exact absurd (Step.take task waiting [] finished hworkers) (hended _)
  · rintro ⟨hwaiting, hrunning⟩ w' hstep
    dsimp only at hwaiting hrunning
    subst hwaiting
    generalize hw : (⟨[], running, finished⟩ : Work α β) = w at hstep
    cases hstep with
    | take task waiting running finished free => simp at hw
    | finish waiting before task after finished =>
      simp only [Work.mk.injEq] at hw
      simp [hw.2.1] at hrunning

/-- A run that cannot go on has finished every task, and each of them once. -/
theorem finished_perm {tasks : List α} {w : Work α β} (hworkers : 0 < workers) (hrun : Run workers f (start tasks) w)
    (hended : Ended workers f w) : w.finished.Perm (tasks.map f).zipIdx := by
  obtain ⟨hwaiting, hrunning⟩ := (ended_iff hworkers w).mp hended
  have hperm := hrun.account_perm
  rw [account_start] at hperm
  simpa [account, hwaiting, hrunning] using hperm

/-- The number of steps that are left. -/
def remaining (w : Work α β) : Nat :=
  2 * w.waiting.length + w.running.length

private theorem Step.remaining_lt {w w' : Work α β} (h : Step workers f w w') : w'.remaining + 1 = w.remaining := by
  cases h with
  | take task waiting running finished free =>
    simp only [remaining, List.length_cons, List.length_append, List.length_nil]
    omega
  | finish waiting before task after finished =>
    simp only [remaining, List.length_cons, List.length_append]
    omega

/-- Whatever has been done, the work can be brought to its end. -/
theorem exists_ended (w : Work α β) : ∃ w', Run workers f w w' ∧ Ended workers f w' := by
  induction hn : w.remaining generalizing w with
  | zero =>
    refine ⟨w, .refl, ?_⟩
    intro w' hstep
    have hlt := hstep.remaining_lt
    omega
  | succ n ih =>
    by_cases hended : Ended workers f w
    · exact ⟨w, .refl, hended⟩
    · simp only [Ended, not_forall, not_not] at hended
      obtain ⟨w₁, hstep⟩ := hended
      have hlt := hstep.remaining_lt
      obtain ⟨w', hrun, hend⟩ := ih w₁ (by omega)
      exact ⟨w', .head hstep hrun, hend⟩

/-! ### Results in the order of the tasks -/

private theorem find?_of_perm_zipIdx {results : List β} {finished : List (β × Nat)} (h : finished.Perm results.zipIdx)
    {x : β × Nat} (hx : x ∈ results.zipIdx) : (finished.find? fun y => y.2 == x.2) = some x := by
  cases hfind : finished.find? fun y => y.2 == x.2 with
  | none =>
    rw [List.find?_eq_none] at hfind
    simpa using hfind x (h.mem_iff.mpr hx)
  | some y =>
    have hnumber : y.2 = x.2 := by simpa using List.find?_some hfind
    have hy := List.mem_zipIdx_iff_getElem?.mp (h.mem_iff.mp (List.mem_of_find?_eq_some hfind))
    have hx := List.mem_zipIdx_iff_getElem?.mp hx
    rw [hnumber, hx, Option.some.injEq] at hy
    rw [Prod.ext hy hnumber.symm]

theorem delivered_eq {results : List β} {w : Work α β} (h : w.finished.Perm results.zipIdx) :
    w.delivered = results := by
  have hlength : w.finished.length = results.length := by simpa using h.length_eq
  have hnumbers : List.range results.length = results.zipIdx.map Prod.snd := by
    rw [List.zipIdx_map_snd, List.range_eq_range']
  calc w.delivered
    _ = results.zipIdx.filterMap fun x => (w.finished.find? fun y => y.2 == x.2).map Prod.fst := by
      rw [delivered, hlength, hnumbers, List.filterMap_map]
      rfl
    _ = results.zipIdx.filterMap (some ∘ Prod.fst) := by
      apply List.filterMap_congr
      intro x hx
      rw [find?_of_perm_zipIdx h hx]
      rfl
    _ = results.zipIdx.map Prod.fst := by rw [List.filterMap_eq_map]
    _ = results := List.zipIdx_map_fst ..

end Work

/-! ### Free workers -/

namespace Pool

variable {α : Type} {workers : Nat}

/-- Taking a task early makes no difference when all free workers take one. -/
theorem fill_take (task : α) (waiting : List α) {running : List α} (free : running.length < workers) :
    fill workers ⟨waiting, running ++ [task]⟩ = fill workers ⟨task :: waiting, running⟩ := by
  obtain ⟨n, hn⟩ : ∃ n, workers - running.length = n + 1 := ⟨workers - running.length - 1, by omega⟩
  have hafter : workers - (running ++ [task]).length = n := by
    rw [List.length_append, List.length_singleton]
    omega
  simp only [fill, hn, hafter, List.drop_succ_cons, List.take_succ_cons, List.append_assoc, List.singleton_append]

/-- When a task ends it makes no difference whether the free workers had taken theirs before. -/
theorem fill_after_finish {waiting rest : List α} {free : Nat} (hroom : rest.length + free + 1 = workers) :
    fill workers ⟨waiting.drop free, rest ++ waiting.take free⟩ = fill workers ⟨waiting, rest⟩ := by
  have hbefore : workers - rest.length = free + 1 := by omega
  have hafter : workers - (rest ++ waiting.take free).length = free + 1 - min free waiting.length := by
    rw [List.length_append, List.length_take]
    omega
  simp only [fill, hbefore, hafter, List.drop_drop, List.append_assoc, ← List.take_add]
  by_cases hmany : free ≤ waiting.length
  · rw [Nat.min_eq_left hmany, Nat.add_sub_cancel_left]
  · rw [List.drop_of_length_le (by omega), List.drop_of_length_le (by omega), List.take_of_length_le (by omega),
      List.take_of_length_le (by omega)]

private theorem finish_congr {pool pool' : Pool α} (h : fill workers pool = fill workers pool') (steps : Nat)
    (schedule : List Nat) : finish workers steps schedule pool = finish workers steps schedule pool' := by
  cases steps with
  | zero => rfl
  | succ steps => simp only [finish, h]

/-- The place of the running task that a schedule picks next. -/
def place (schedule : List Nat) (running : List α) : Nat :=
  if schedule.headD 0 < running.length then schedule.headD 0 else 0

private theorem exists_place (schedule : List Nat) {running : List α} (h : running ≠ []) :
    ∃ before task after, running = before ++ task :: after ∧ place schedule running = before.length := by
  have hlt : place schedule running < running.length := by
    unfold place
    split
    · assumption
    · exact List.length_pos_of_ne_nil h
  refine ⟨running.take (place schedule running), running[place schedule running],
    running.drop (place schedule running + 1), ?_, ?_⟩
  · rw [List.getElem_cons_drop, List.take_append_drop]
  · rw [List.length_take]
    omega

/-- One step of a schedule. -/
theorem finish_succ {pool : Pool α} {waiting before after : List α} {task : α} {schedule : List Nat}
    (hfill : fill workers pool = ⟨waiting, before ++ task :: after⟩)
    (hplace : place schedule (before ++ task :: after) = before.length) (steps : Nat) :
    finish workers (steps + 1) schedule pool = task :: finish workers steps schedule.tail ⟨waiting, before ++ after⟩ := by
  unfold place at hplace
  simp only [finish, hfill, hplace, List.getElem?_append_right (Nat.le_refl _), Nat.sub_self,
    List.getElem?_cons_zero, List.eraseIdx_append_of_length_le (Nat.le_refl _), List.eraseIdx_cons_zero]

private theorem finish_cons (waiting before : List α) (task : α) (after : List α)
    (hroom : (before ++ task :: after).length ≤ workers) (steps : Nat) (schedule : List Nat) :
    finish workers (steps + 1) (before.length :: schedule) ⟨waiting, before ++ task :: after⟩ =
      task :: finish workers steps schedule ⟨waiting, before ++ after⟩ := by
  generalize hfree : workers - (before ++ task :: after).length = free
  have hfill : fill workers ⟨waiting, before ++ task :: after⟩ =
      ⟨waiting.drop free, before ++ task :: (after ++ waiting.take free)⟩ := by
    simp only [fill, hfree, List.append_assoc, List.cons_append]
  have hrest : (before ++ after).length + free + 1 = workers := by
    simp only [List.length_append, List.length_cons] at hroom hfree ⊢
    omega
  rw [finish_succ hfill (by simp [place]), List.tail_cons, ← List.append_assoc]
  congr 1
  exact finish_congr (fill_after_finish hrest) steps schedule

end Pool

/-! ### Runs and schedules -/

namespace Work

variable {α β : Type} {workers : Nat} {f : α → β}

/-- The pool of the tasks that are not finished, each by its result. -/
def pool (f : α → β) (w : Work α β) : Pool β :=
  ⟨w.waiting.map (f ∘ Prod.fst), w.running.map (f ∘ Prod.fst)⟩

def unfinished (w : Work α β) : Nat :=
  w.waiting.length + w.running.length

theorem Step.room {w w' : Work α β} (h : Step workers f w w') (hroom : w.running.length ≤ workers) :
    w'.running.length ≤ workers := by
  cases h with
  | take task waiting running finished free =>
    rw [List.length_append, List.length_singleton]
    exact free
  | finish waiting before task after finished =>
    simp only [List.length_append, List.length_cons] at hroom ⊢
    omega

/-- The order in which a run ends its tasks is that of a schedule. -/
theorem Run.exists_schedule {w w' : Work α β} (h : Run workers f w w') (hroom : w.running.length ≤ workers)
    (hdone : w'.waiting = [] ∧ w'.running = []) :
    ∃ schedule, w'.finished.map Prod.fst =
      w.finished.map Prod.fst ++ Pool.finish workers w.unfinished schedule (w.pool f) := by
  induction h using Relation.ReflTransGen.head_induction_on with
  | refl =>
    refine ⟨[], ?_⟩
    simp [unfinished, hdone, Pool.finish]
  | head hstep _ ih =>
    obtain ⟨schedule, hschedule⟩ := ih (hstep.room hroom)
    cases hstep with
    | take task waiting running finished free =>
      refine ⟨schedule, hschedule.trans ?_⟩
      have hcount : unfinished (⟨waiting, running ++ [task], finished⟩ : Work α β) =
          unfinished ⟨task :: waiting, running, finished⟩ := by
        simp only [unfinished, List.length_append, List.length_cons, List.length_nil]
        omega
      have hroom' : (running.map (f ∘ Prod.fst)).length < workers := by simpa using free
      rw [hcount]
      congr 1
      apply Pool.finish_congr
      simpa [pool] using Pool.fill_take (f task.1) (waiting.map (f ∘ Prod.fst)) hroom'
    | finish waiting before task after finished =>
      refine ⟨before.length :: schedule, hschedule.trans ?_⟩
      have hcount : unfinished (⟨waiting, before ++ task :: after, finished⟩ : Work α β) =
          unfinished (⟨waiting, before ++ after, finished ++ [(f task.1, task.2)]⟩ : Work α β) + 1 := by
        simp only [unfinished, List.length_append, List.length_cons]
        omega
      have hroom' : (before.map (f ∘ Prod.fst) ++ f task.1 :: after.map (f ∘ Prod.fst)).length ≤ workers := by
        simpa using hroom
      have hcons := Pool.finish_cons (waiting.map (f ∘ Prod.fst)) _ _ _ hroom'
        (unfinished (⟨waiting, before ++ after, finished ++ [(f task.1, task.2)]⟩ : Work α β)) schedule
      rw [hcount]
      simp only [pool, List.map_append, List.map_cons, List.map_nil, List.append_assoc, List.length_map,
        List.singleton_append, Function.comp_apply] at hcons ⊢
      rw [hcons]

/-- Free workers take the tasks in front. -/
theorem run_take (n : Nat) (waiting running : List (α × Nat)) (finished : List (β × Nat))
    (hroom : running.length + n ≤ workers) :
    Run workers f ⟨waiting, running, finished⟩ ⟨waiting.drop n, running ++ waiting.take n, finished⟩ := by
  induction n generalizing waiting running with
  | zero =>
    simp only [List.drop_zero, List.take_zero, List.append_nil]
    exact .refl
  | succ n ih =>
    cases waiting with
    | nil =>
      simp only [List.drop_nil, List.take_nil, List.append_nil]
      exact .refl
    | cons task waiting =>
      have hstep := Step.take (f := f) task waiting running finished (by omega : running.length < workers)
      have hrest := ih waiting (running ++ [task]) (by simp only [List.length_append, List.length_singleton]; omega)
      rw [List.append_assoc, List.singleton_append] at hrest
      exact .head hstep hrest

/-- A schedule is followed by a run. -/
theorem exists_run (hworkers : 0 < workers) (schedule : List Nat) (w : Work α β)
    (hroom : w.running.length ≤ workers) :
    ∃ w', Run workers f w w' ∧ w'.waiting = [] ∧ w'.running = [] ∧
      w'.finished.map Prod.fst = w.finished.map Prod.fst ++ Pool.finish workers w.unfinished schedule (w.pool f) := by
  induction hn : w.unfinished generalizing w schedule with
  | zero =>
    obtain ⟨hwaiting, hrunning⟩ : w.waiting = [] ∧ w.running = [] := by
      simpa [unfinished] using hn
    exact ⟨w, .refl, hwaiting, hrunning, by simp [Pool.finish]⟩
  | succ n ih =>
    obtain ⟨waiting, running, finished⟩ := w
    dsimp only [unfinished] at hroom hn
    generalize hfree : workers - running.length = free
    have hfull := run_take (f := f) free waiting running finished (by omega : running.length + free ≤ workers)
    have hne : running ++ waiting.take free ≠ [] := by
      intro hempty
      obtain ⟨rfl, htake⟩ := List.append_eq_nil_iff.mp hempty
      have hlength := congrArg List.length htake
      simp only [List.length_take, List.length_nil] at hlength hfree hn
      omega
    obtain ⟨before, task, after, hsplit, hplace⟩ := Pool.exists_place schedule hne
    rw [hsplit] at hfull hplace
    have hcount := congrArg List.length hsplit
    simp only [List.length_append, List.length_take, List.length_cons] at hcount
    obtain ⟨w', hrun, hwaiting, hrunning, horder⟩ := ih schedule.tail
      ⟨waiting.drop free, before ++ after, finished ++ [(f task.1, task.2)]⟩
      (by simp only [List.length_append]; omega)
      (by simp only [unfinished, List.length_append, List.length_drop]; omega)
    refine ⟨w', hfull.trans (.head (.finish _ before task after finished) hrun), hwaiting, hrunning, ?_⟩
    have hfill : Pool.fill workers (pool f ⟨waiting, running, finished⟩) =
        ⟨(waiting.drop free).map (f ∘ Prod.fst),
          before.map (f ∘ Prod.fst) ++ f task.1 :: after.map (f ∘ Prod.fst)⟩ := by
      have hmap := congrArg (List.map (f ∘ Prod.fst)) hsplit
      simp only [List.map_append, List.map_cons, List.map_take, Function.comp_apply] at hmap
      simp only [Pool.fill, pool, List.length_map, hfree, hmap, List.map_drop]
    rw [horder, Pool.finish_succ hfill (by simpa [Pool.place] using hplace)]
    simp [pool]

/-- The orders in which runs end their tasks are those of the schedules. -/
theorem exists_run_iff_exists_schedule (hworkers : 0 < workers) (f : α → β) (tasks : List α) (order : List β) :
    (∃ w, Run workers f (start tasks) w ∧ Ended workers f w ∧ w.finished.map Prod.fst = order) ↔
      ∃ schedule, Pool.order workers schedule (tasks.map f) = order := by
  have hcount : (start tasks : Work α β).unfinished = (tasks.map f).length := by
    simp [unfinished, start]
  have hpool : (start tasks).pool f = ⟨tasks.map f, []⟩ := by
    simp only [pool, start, List.map_nil, ← List.map_map, List.zipIdx_map_fst]
  have hroom : (start tasks : Work α β).running.length ≤ workers := Nat.zero_le _
  constructor
  · rintro ⟨w, hrun, hended, rfl⟩
    obtain ⟨schedule, hschedule⟩ := hrun.exists_schedule hroom ((ended_iff hworkers w).mp hended)
    refine ⟨schedule, ?_⟩
    rw [hschedule, hcount, hpool]
    rfl
  · rintro ⟨schedule, rfl⟩
    obtain ⟨w, hrun, hwaiting, hrunning, horder⟩ := exists_run (f := f) hworkers schedule (start tasks) hroom
    refine ⟨w, hrun, (ended_iff hworkers w).mpr ⟨hwaiting, hrunning⟩, ?_⟩
    rw [horder, hcount, hpool]
    rfl

end Work

/-- Under every schedule each task ends once. -/
theorem Pool.order_perm {α : Type} {workers : Nat} (hworkers : 0 < workers) (schedule : List Nat) (tasks : List α) :
    (order workers schedule tasks).Perm tasks := by
  obtain ⟨w, hrun, hended, horder⟩ :=
    (Work.exists_run_iff_exists_schedule hworkers id tasks _).mpr ⟨schedule, rfl⟩
  have hperm := (Work.finished_perm hworkers hrun hended).map Prod.fst
  rw [horder] at hperm
  simpa using hperm

/-- One worker ends the tasks in their order. -/
theorem Pool.order_one {α : Type} (schedule : List Nat) (tasks : List α) : order 1 schedule tasks = tasks := by
  unfold order
  induction tasks generalizing schedule with
  | nil => rfl
  | cons task tasks ih =>
    have hfill : fill 1 ⟨task :: tasks, []⟩ = ⟨tasks, [] ++ task :: []⟩ := rfl
    have hplace : place schedule ([] ++ task :: [] : List α) = ([] : List α).length := by
      simp [place]
    rw [List.length_cons, finish_succ hfill hplace, List.nil_append, ih]

end ClassOutline.Catalog

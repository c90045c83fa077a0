import Outbox.Proofs.Worker.Accounting
import Outbox.Proofs.Worker.Watch

namespace Outbox

namespace Deed

def isVain : Deed → Bool
  | .claim _ _ _ _ (.error _) | .claim _ _ _ _ (.ok []) => true
  | _ => false

def isUnwritten : Deed → Bool
  | .markProcessed _ _ (.error _) | .markFailed _ _ _ _ (.error _) => true
  | _ => false

end Deed

namespace Worker

variable {s : Settings} {listening : Bool} {r : Row} {rows : List Row} {ds : List Deed}
  {parts : List (List Deed × Resolution)}

theorem Delivers.any_isVain {result : Except Abort (Except DeliveryError Unit)} (h : Delivers s r ds result) :
    ds.any Deed.isVain = false := by
  cases h <;> rfl

theorem Delivers.countP_isUnwritten {result : Except Abort (Except DeliveryError Unit)} (h : Delivers s r ds result) :
    ds.countP Deed.isUnwritten = 0 := by
  cases h <;> rfl

theorem Dispatches.any_isVain {result : Except Abort Resolution} (h : Dispatches s listening r ds result) :
    ds.any Deed.isVain = false := by
  cases h with
  | delivered ds t answer hd | failed ds e t answer hd hcount =>
      rw [List.any_append, hd.any_isVain]
      rfl
  | uncounted _ e hd hcount | aborted _ a hd => exact hd.any_isVain

theorem Dispatches.countP_isUnwritten {x : Resolution} (h : Dispatches s listening r ds (.ok x)) :
    ds.countP Deed.isUnwritten = [x].count .unwritten := by
  cases h with
  | delivered ds t answer hd =>
      rw [List.countP_append, hd.countP_isUnwritten]
      cases answer <;> rfl
  | failed ds e t answer hd hcount =>
      rw [List.countP_append, hd.countP_isUnwritten]
      match answer with
      | .error _ | .ok (.retrying ..) | .ok (.deadLettered _) | .ok .unchanged => rfl

theorem any_isVain_parts
    (h : List.Forall₂ (fun r part => Dispatches s listening r part.1 (.ok part.2)) rows parts) :
    (parts.flatMap (·.1)).any Deed.isVain = false := by
  induction h with
  | nil => rfl
  | cons hr _ ih => rw [List.flatMap_cons, List.any_append, hr.any_isVain, ih, Bool.false_or]

theorem countP_isUnwritten_parts
    (h : List.Forall₂ (fun r part => Dispatches s listening r part.1 (.ok part.2)) rows parts) :
    (parts.flatMap (·.1)).countP Deed.isUnwritten = (parts.map (·.2)).count .unwritten := by
  induction h with
  | nil => rfl
  | cons hr _ ih =>
      rw [List.flatMap_cons, List.countP_append, hr.countP_isUnwritten, ih, List.map_cons, ← List.count_append,
        List.singleton_append]

end Worker

namespace Shift

variable {s : Settings} {listening : Bool} {x : Shift} {report : Report}

/-- The pause that every error of the store calls for, and also a claim without rows. -/
def duePause (s : Settings) (x : Shift) : Duration :=
  if x.deeds.any Deed.isVain || x.deeds.any Deed.isUnwritten then s.idleInterval else s.batchPause

theorem IsWhole.pause_eq (h : x.IsWhole s listening) :
    x.pause s = if x.deeds.any Deed.isVain then s.idleInterval else s.batchPause := by
  cases h with
  | refused t e => rfl
  | worked t batch parts hparts =>
      change Loop.pauseAfter s (parts.foldl (fun report part => report.count part.2) _) = _
      rw [← List.foldl_map, Report.foldl_count, List.any_cons, Worker.any_isVain_parts hparts]
      cases batch <;> rfl

theorem IsWhole.storeErrors_eq (h : x.IsWhole s listening) (hx : x.result = .ok report) :
    report.storeErrors = x.deeds.countP Deed.isUnwritten := by
  cases h with
  | refused t e => cases hx
  | worked t batch parts hparts =>
      cases hx
      rw [← List.foldl_map, Report.foldl_count, List.countP_cons, Worker.countP_isUnwritten_parts hparts]
      exact Nat.zero_add _

theorem IsWhole.written_of_vain (h : x.IsWhole s listening) (hvain : x.deeds.any Deed.isVain = true) :
    x.deeds.any Deed.isUnwritten = false := by
  cases h with
  | refused t e => rfl
  | worked t batch parts hparts =>
      cases hparts with
      | nil => rfl
      | cons hr hrest =>
          rw [List.any_cons, Worker.any_isVain_parts (.cons hr hrest)] at hvain
          cases hvain

theorem IsWhole.pause_eq_duePause_iff (h : x.IsWhole s listening) : x.pause s = x.duePause s ↔
    (x.deeds.any Deed.isUnwritten = true → s.idleInterval = s.batchPause) := by
  rw [h.pause_eq, duePause]
  cases hvain : x.deeds.any Deed.isVain with
  | true => simp [h.written_of_vain hvain]
  | false => cases x.deeds.any Deed.isUnwritten <;> simp [eq_comm]

end Shift

namespace Watch

open Program Worker Loop Moment

variable {s : Settings} {listening : Bool} {c : Channel} {ms : List Moment} {w : Watch} {t : Tally} {d : Duration}

theorem first_runs (answer : Except StoreError Unit) : let s := Settings.standard "worker"
    ∃ ms, Runs s false (start s false ⟨false, false, true⟩) ms
        ⟨.done ⟨Tally.zero.absorb ((Report.ofClaimed 1).count (.ofMark answer)), .pausing s.batchPause⟩,
          ⟨false, false, true⟩⟩ ∧
      (deeds ms).any Deed.isUnwritten = !answer.isOk := by
  intro s
  have hstart : Runs s false (start s false ⟨false, false, true⟩) [] _ := .rest
  have hread := (hstart.step (.work _ _ _ _ (.log _ _))).step (.work _ _ _ _ (.now _ .epoch))
  have hclaimed := (hread.step (.work _ _ _ _ (.claim _ _ _ _ _ (.ok [Row.sample 7])))).step (.work _ _ _ _ (.log _ _))
  have hpublished := hclaimed.step (.work _ _ _ _ (.publish _ _ (.ok (.ok ()))))
  have hreread := hpublished.step (.work _ _ _ _ (.now _ .epoch))
  have hmarked := hreread.step (.work _ _ _ _ (.markProcessed _ _ _ answer))
  cases answer with
  | ok => exact ⟨_, hmarked.step (.work _ _ _ _ (.log _ _)), rfl⟩
  | error e => exact ⟨_, hmarked.step (.work _ _ _ _ (.log _ _)), rfl⟩

/-- Whenever a worker pauses, it has gone through whole iterations, of which the last decides about the pause: it is the
long one if the claim brought no rows, and else the short one. That is the pause due after the iteration unless a
resolution was refused in it, which the report counts and the pause does not heed. -/
theorem pause_decided (hruns : Runs s listening (start s listening c) ms w) (hw : w.work = .done ⟨t, .pausing d⟩) :
    ∃ (shifts : List Shift) (x : Shift), (∀ y ∈ shifts ++ [x], y.IsWhole s listening) ∧
      deeds ms = (shifts ++ [x]).flatMap (·.deeds) ∧ t = .total ((shifts ++ [x]).map (·.result)) ∧
      d = (if x.deeds.any Deed.isVain then s.idleInterval else s.batchPause) ∧
      (∀ report, x.result = .ok report → report.storeErrors = x.deeds.countP Deed.isUnwritten) ∧
      (d = x.duePause s ↔ (x.deeds.any Deed.isUnwritten = true → s.idleInterval = s.batchPause)) := by
  obtain ⟨shifts, begun, hdeeds, hkeeps⟩ := keeps_runs hruns
  rw [hw] at hkeeps
  obtain ⟨x, hx, rfl, rfl, rfl⟩ := hkeeps.pausing
  refine ⟨shifts, x, ?_, ?_, rfl, hx.pause_eq, fun _ => hx.storeErrors_eq, hx.pause_eq_duePause_iff⟩
  · exact List.forall_mem_append.2 ⟨hkeeps.whole, List.forall_mem_singleton.2 hx⟩
  · rw [hdeeds, List.flatMap_append, List.flatMap_singleton]

theorem pause_decided_refused : let s := Settings.standard "worker"
    ∃ ms w, Runs s false (start s false ⟨false, false, true⟩) ms w ∧
      w.work = .done ⟨⟨2, 1, 1, 0, 0, 1⟩, .pausing s.idleInterval⟩ ∧
      ∃ (shifts : List Shift) (x : Shift), (∀ y ∈ shifts ++ [x], y.IsWhole s false) ∧
        deeds ms = (shifts ++ [x]).flatMap (·.deeds) ∧ s.idleInterval = x.duePause s := by
  intro s
  obtain ⟨ms, hfirst, hwritten⟩ := first_runs (.ok ())
  have hwoken := (hfirst.step (.elapse _ _ _)).step (.work _ _ _ _ (.now _ .epoch))
  have hrefused := (hwoken.step (.work _ _ _ _ (.claim _ _ _ _ _ (.error (.refused (.storage "gone")))))).step
    (.work _ _ _ _ (.log _ _))
  obtain ⟨shifts, x, hwhole, hdeeds, -, -, -, hdue⟩ := pause_decided hrefused rfl
  refine ⟨_, _, hrefused, rfl, shifts, x, hwhole, hdeeds, hdue.2 fun hunwritten => ?_⟩
  have hall := congrArg (List.any · Deed.isUnwritten) hdeeds
  simp only [deeds_concat, List.any_append, hwritten, List.flatMap_append, List.flatMap_singleton, hunwritten,
    Bool.or_true] at hall
  cases hall

/-- The row of the first iteration is gone when it is to be marked, and the worker rests no longer for it. -/
theorem pause_unheeding : let s := Settings.standard "worker"
    ∃ ms w, Runs s false (start s false ⟨false, false, true⟩) ms w ∧
      w.work = .done ⟨⟨1, 1, 0, 0, 0, 1⟩, .pausing s.batchPause⟩ ∧ (deeds ms).any Deed.isUnwritten = true ∧
      s.batchPause < s.idleInterval := by
  obtain ⟨ms, hfirst, hunwritten⟩ := first_runs (.error (.notFound ⟨.ofNat 7⟩))
  exact ⟨ms, _, hfirst, rfl, hunwritten, by decide⟩

end Watch

end Outbox

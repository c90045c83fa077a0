import Mathlib.Algebra.BigOperators.Group.List.Basic
import Outbox.Proofs.Row
import Outbox.Proofs.Worker.Deed
import Outbox.Worker.Loop

namespace Outbox

namespace Program

variable {α : Type} {post : List Deed → α → Prop} {p q : Program α} {d? : Option Deed}

/-- One step of a program, with what it does to the store or the publisher, if anything. -/
inductive Takes : Program α → Option Deed → Program α → Prop
  | now (next) (t : Time) : Takes (.now next) none (next t)
  | claim (take) (worker) (lease) (t) (next) (x) :
      Takes (.claim take worker lease t next) (some (.claim take worker lease t x)) (next x)
  | publish (m) (next) (x) : Takes (.publish m next) (some (.publish m x)) (next x)
  | markProcessed (id) (t) (next) (x) : Takes (.markProcessed id t next) (some (.markProcessed id t x)) (next x)
  | markFailed (id) (error) (t) (policy) (next) (x) :
      Takes (.markFailed id error t policy next) (some (.markFailed id error t policy x)) (next x)
  | log (e) (next) : Takes (.log e next) none next

theorem Tells.takes (h : p.Tells post) (hp : p.Takes d? q) : q.Tells fun ds => post (d?.toList ++ ds) := by
  cases hp with
  | now next t => exact h t
  | log e next => exact h
  | claim take worker lease t next x => exact h x
  | publish m next x => exact h x
  | markProcessed id t next x => exact h x
  | markFailed id error t policy next x => exact h x

def Rests (post : α → Prop) : Program α → Prop
  | .done a => post a
  | .log _ next => Rests post next
  | _ => False

theorem Rests.takes {post : α → Prop} (h : p.Rests post) (hp : p.Takes d? q) : d? = none ∧ q.Rests post := by
  cases hp with
  | log e next => exact ⟨rfl, h⟩
  | now | claim | publish | markProcessed | markFailed => exact h.elim

end Program

namespace Tally

def total (results : List (Except StoreError Report)) : Tally where
  iterations := results.length
  claimed := ((results.filterMap Except.toOption).map Report.claimed).sum
  published := ((results.filterMap Except.toOption).map Report.published).sum
  retried := ((results.filterMap Except.toOption).map Report.retried).sum
  deadLettered := ((results.filterMap Except.toOption).map Report.deadLettered).sum
  storeErrors := ((results.filterMap Except.toOption).map Report.storeErrors).sum + results.countP (!·.isOk)

theorem total_ok (results : List (Except StoreError Report)) (r : Report) :
    total (results ++ [.ok r]) = (total results).absorb r := by
  simp [total, absorb, Except.toOption, Except.isOk, Except.toBool]
  omega

theorem total_error (results : List (Except StoreError Report)) (e : StoreError) :
    total (results ++ [.error e]) = (total results).refuse := by
  have hnone : ([.error e] : List (Except StoreError Report)).filterMap Except.toOption = [] := rfl
  simp [total, refuse, hnone, Except.isOk, Except.toBool]
  omega

end Tally

def Shift.pause (s : Settings) (x : Shift) : Duration :=
  match x.result with
  | .ok r => Loop.pauseAfter s r
  | .error _ => s.idleInterval

namespace Loop

open Program Worker

variable {s : Settings} {listening : Bool}

def settle (s : Settings) (t : Tally) : Except Interruption Report → Loop
  | .ok r => ⟨t.absorb r, .pausing (pauseAfter s r)⟩
  | .error (.refused _) => ⟨t.refuse, .pausing s.idleInterval⟩
  | .error (.aborted a) => ⟨t, .broken a⟩

inductive Leads (s : Settings) (listening : Bool) (t : Tally) : List Deed → Loop → Prop
  | settled (ds : List Deed) (x : Except Interruption Report) (h : Iterates s listening ds x) :
      Leads s listening t ds (settle s t x)
  | stopped : Leads s listening t [] ⟨t, .stopped⟩

theorem turn_tells (t : Tally) : (turn s (backend listening) t).Tells (Leads s listening t) := by
  refine tells_bind (iteration_tells.mono ?_)
  intro ds x hx
  have hsettled : Leads s listening t (ds ++ []) (settle s t x) := by
    rw [List.append_nil]
    exact .settled ds x hx
  match x with
  | .ok r | .error (.refused e) | .error (.aborted a) => exact hsettled

theorem stop_tells (t : Tally) : (stop s (backend listening) t).Tells (Leads s listening t) := .stopped

theorem start_tells (told : Bool) : (start s (backend listening) told).Tells (Leads s listening .zero) := by
  cases told with
  | false => exact turn_tells .zero
  | true => exact stop_tells .zero

theorem wake_tells (t : Tally) (d : Duration) (w : Wake) :
    (wake s (backend listening) ⟨t, .pausing d⟩ w).Tells (Leads s listening t) := by
  match w with
  | .elapsed | .told false => exact turn_tells t
  | .told true | .abandoned => exact stop_tells t

end Loop

/-- The flag of a channel, whether it was set anew since the worker last looked, and whether it can still be set. -/
structure Channel where
  flag : Bool
  unseen : Bool
  isOpen : Bool

/-- A worker's loop, by what is left to do before its next pause, and its channel. -/
structure Watch where
  work : Program Loop
  channel : Channel

/-- What happens next: something in an iteration, something to the channel, or the end of a pause, which comes of its
time, of a flag that is set or of the loss of the channel. -/
inductive Moment
  | work (d? : Option Deed)
  | send (flag : Bool)
  | close
  | elapse
  | notice
  | lose

namespace Moment

def IsOwn : Moment → Prop
  | .send _ | .close => False
  | _ => True

def deed? : Moment → Option Deed
  | .work d? => d?
  | _ => none

def deeds (ms : List Moment) : List Deed := ms.filterMap deed?

end Moment

namespace Watch

open Program Worker Loop Moment

variable (s : Settings) (listening : Bool)

def start (c : Channel) : Watch := ⟨Loop.start s (backend listening) c.flag, c⟩

/-- A pause is over when its time is, or at once when the flag is set anew or can no longer be set. The flag then says
whether there is another iteration. -/
inductive Step : Watch → Moment → Watch → Prop
  | work (p q : Program Loop) (c : Channel) (d? : Option Deed) (hp : p.Takes d? q) : Step ⟨p, c⟩ (.work d?) ⟨q, c⟩
  | send (p : Program Loop) (c : Channel) (flag : Bool) (hc : c.isOpen = true) :
      Step ⟨p, c⟩ (.send flag) ⟨p, { c with flag, unseen := true }⟩
  | close (p : Program Loop) (c : Channel) : Step ⟨p, c⟩ .close ⟨p, { c with isOpen := false }⟩
  | elapse (t : Tally) (d : Duration) (c : Channel) : Step ⟨.done ⟨t, .pausing d⟩, c⟩ .elapse
      ⟨wake s (backend listening) ⟨t, .pausing d⟩ (if c.flag then .told true else .elapsed), c⟩
  | notice (t : Tally) (d : Duration) (c : Channel) (hc : c.unseen = true) : Step ⟨.done ⟨t, .pausing d⟩, c⟩ .notice
      ⟨wake s (backend listening) ⟨t, .pausing d⟩ (.told c.flag), { c with unseen := false }⟩
  | lose (t : Tally) (d : Duration) (c : Channel) (hc : c.unseen = false) (hlost : c.isOpen = false) :
      Step ⟨.done ⟨t, .pausing d⟩, c⟩ .lose ⟨wake s (backend listening) ⟨t, .pausing d⟩ .abandoned, c⟩

inductive Runs (w : Watch) : List Moment → Watch → Prop
  | rest : Runs w [] w
  | step {ms : List Moment} {m : Moment} {v u : Watch} (h : Runs w ms v) (hs : Step s listening v m u) :
      Runs w (ms ++ [m]) u

/-- The loop is bound to end while its flag is set: whatever is answered and whatever else becomes of the channel, it
can go on, and can do so only a finite number of times. -/
inductive Ends : Program Loop → Prop
  | ended (l : Loop) (h : ∀ d, l.phase ≠ .pausing d) : Ends (.done l)
  | goesOn (p : Program Loop)
      (hgo : ∀ c : Channel, c.flag = true → ∃ m w, m.IsOwn ∧ Step s listening ⟨p, c⟩ m w)
      (hends : ∀ (c : Channel) (m : Moment) (w : Watch), c.flag = true → m.IsOwn → Step s listening ⟨p, c⟩ m w →
        Ends w.work) : Ends p

variable {s listening} {w v u : Watch} {c : Channel} {m : Moment} {ms : List Moment} {p q : Program Loop} {t : Tally}
  {d : Duration} {ds : List Deed}

/-- The iterations that were whole, with another made of these deeds if there are any, are what the tally sums up. -/
inductive Completes (s : Settings) (listening : Bool) (shifts : List Shift) : List Deed → Tally → Prop
  | another (x : Shift) (hx : x.IsWhole s listening) :
      Completes s listening shifts x.deeds (.total ((shifts ++ [x]).map (·.result)))
  | none : Completes s listening shifts [] (.total (shifts.map (·.result)))

/-- What is left to do completes an iteration that has begun with these deeds, after others that were whole. -/
structure Keeps (s : Settings) (listening : Bool) (shifts : List Shift) (begun : List Deed) (p : Program Loop) :
    Prop where
  whole : ∀ x ∈ shifts, x.IsWhole s listening
  tells : p.Tells fun more => Leads s listening (.total (shifts.map (·.result))) (begun ++ more)

variable {shifts : List Shift} {begun : List Deed}

theorem keeps_start (told : Bool) : Keeps s listening [] [] (Loop.start s (backend listening) told) :=
  ⟨by simp, start_tells told⟩

theorem Keeps.leads {l : Loop} (h : Keeps s listening shifts begun (.done l)) :
    Leads s listening (.total (shifts.map (·.result))) begun l := by
  have hl : Leads s listening _ (begun ++ []) l := h.tells
  rwa [List.append_nil] at hl

theorem Keeps.takes (h : Keeps s listening shifts begun p) (hp : p.Takes d? q) :
    Keeps s listening shifts (begun ++ d?.toList) q := by
  refine ⟨h.whole, (h.tells.takes hp).mono fun more l hl => ?_⟩
  rwa [List.append_assoc]

theorem Keeps.pausing (h : Keeps s listening shifts begun (.done ⟨t, .pausing d⟩)) : ∃ x : Shift,
    x.IsWhole s listening ∧ x.deeds = begun ∧ t = .total ((shifts ++ [x]).map (·.result)) ∧ d = x.pause s := by
  have hleads := h.leads
  generalize hl : (⟨t, .pausing d⟩ : Loop) = l at hleads
  cases hleads with
  | stopped => cases hl
  | settled _ result hresult =>
      match result with
      | .ok r =>
          cases hl
          refine ⟨⟨begun, .ok r⟩, Shift.isWhole_worked hresult, rfl, ?_, rfl⟩
          rw [List.map_append]
          exact (Tally.total_ok _ r).symm
      | .error (.refused e) =>
          cases hl
          refine ⟨⟨begun, .error e⟩, Shift.isWhole_refused hresult, rfl, ?_, rfl⟩
          rw [List.map_append]
          exact (Tally.total_error _ e).symm
      | .error (.aborted a) => cases hl

theorem Keeps.completes {l : Loop} (h : Keeps s listening shifts begun (.done l))
    (hunbroken : ∀ a, l.phase ≠ .broken a) : Completes s listening shifts begun l.tally := by
  obtain ⟨t, phase⟩ := l
  cases phase with
  | broken a => exact absurd rfl (hunbroken a)
  | pausing d =>
      obtain ⟨x, hx, rfl, rfl, -⟩ := h.pausing
      exact .another x hx
  | stopped =>
      have hleads := h.leads
      generalize hl : (⟨t, .stopped⟩ : Loop) = l at hleads
      cases hleads with
      | stopped =>
          cases hl
          exact .none
      | settled _ result _ =>
          match result with
          | .ok r | .error (.refused e) | .error (.aborted a) => cases hl

theorem deeds_concat (ms : List Moment) (m : Moment) : deeds (ms ++ [m]) = deeds ms ++ m.deed?.toList := by
  rw [deeds, List.filterMap_append]
  cases hm : m.deed? <;> simp [deeds, hm]

theorem Keeps.step (h : Keeps s listening shifts begun w.work) (hs : Step s listening w m v) :
    ∃ shifts' begun', shifts'.flatMap (·.deeds) ++ begun' = shifts.flatMap (·.deeds) ++ begun ++ m.deed?.toList ∧
      Keeps s listening shifts' begun' v.work := by
  have hsame : shifts.flatMap (·.deeds) ++ begun = shifts.flatMap (·.deeds) ++ begun ++ [] := (List.append_nil _).symm
  have hwoken {t : Tally} {d : Duration} (hp : Keeps s listening shifts begun (.done ⟨t, .pausing d⟩)) (waking : Wake) :
      ∃ shifts' begun', shifts'.flatMap (·.deeds) ++ begun' = shifts.flatMap (·.deeds) ++ begun ++ [] ∧
        Keeps s listening shifts' begun' (wake s (backend listening) ⟨t, .pausing d⟩ waking) := by
    obtain ⟨x, hx, rfl, rfl, -⟩ := hp.pausing
    refine ⟨shifts ++ [x], [], by simp, ?_, wake_tells _ d waking⟩
    exact List.forall_mem_append.2 ⟨hp.whole, List.forall_mem_singleton.2 hx⟩
  cases hs with
  | work p q c d? hp => exact ⟨shifts, _, (List.append_assoc ..).symm, h.takes hp⟩
  | send | close => exact ⟨shifts, begun, hsame, h⟩
  | elapse | notice => exact hwoken h _
  | lose => exact hwoken h .abandoned

theorem keeps_runs (h : Runs s listening (start s listening c) ms w) : ∃ shifts begun,
    deeds ms = shifts.flatMap (·.deeds) ++ begun ∧ Keeps s listening shifts begun w.work := by
  induction h with
  | rest => exact ⟨[], [], rfl, keeps_start c.flag⟩
  | step _ hs ih =>
      obtain ⟨shifts, begun, hdeeds, hkeeps⟩ := ih
      obtain ⟨shifts', begun', hdeeds', hkeeps'⟩ := hkeeps.step hs
      exact ⟨shifts', begun', by rw [deeds_concat, hdeeds, hdeeds'], hkeeps'⟩

def IsLeaving (post : Tally → Prop) (w : Watch) : Prop :=
  w.channel.flag = true ∧ w.work.Rests fun l => post l.tally

theorem IsLeaving.step {post : Tally → Prop} (h : w.IsLeaving post) (hs : Step s listening w m v)
    (hm : m ≠ .send false) : v.IsLeaving post ∧ m.deed? = none := by
  obtain ⟨hflag, hrests⟩ := h
  cases hs with
  | work p q c d? hp =>
      obtain ⟨hnone, hq⟩ := hrests.takes hp
      exact ⟨⟨hflag, hq⟩, hnone⟩
  | send p c flag hc =>
      cases flag with
      | false => exact absurd rfl hm
      | true => exact ⟨⟨rfl, hrests⟩, rfl⟩
  | close p c => exact ⟨⟨hflag, hrests⟩, rfl⟩
  | elapse t d c =>
      dsimp only at hflag
      rw [if_pos hflag]
      exact ⟨⟨hflag, hrests⟩, rfl⟩
  | notice t d c hc =>
      dsimp only at hflag
      rw [hflag]
      exact ⟨⟨rfl, hrests⟩, rfl⟩
  | lose t d c hc hlost => exact ⟨⟨hflag, hrests⟩, rfl⟩

theorem IsLeaving.runs {post : Tally → Prop} (h : w.IsLeaving post) (hruns : Runs s listening w ms v)
    (hms : .send false ∉ ms) : v.IsLeaving post ∧ deeds ms = [] := by
  induction hruns with
  | rest => exact ⟨h, rfl⟩
  | @step ms m v u _ hs ih =>
      rw [List.mem_append, List.mem_singleton, not_or] at hms
      obtain ⟨hv, hnone⟩ := ih hms.1
      obtain ⟨hu, hdeed⟩ := hv.step hs (Ne.symm hms.2)
      rw [deeds_concat, hnone, hdeed]
      exact ⟨hu, rfl⟩

def Closes (s : Settings) (listening : Bool) (shifts : List Shift) (ds : List Deed) (w : Watch) : Prop :=
  w.channel.flag = true ∧ Keeps s listening shifts ds w.work ∨ w.IsLeaving (Completes s listening shifts ds)

theorem Closes.flag (h : Closes s listening shifts ds w) : w.channel.flag = true := by
  obtain ⟨hflag, -⟩ | ⟨hflag, -⟩ := h
  · exact hflag
  · exact hflag

theorem Closes.completes {l : Loop} (h : Closes s listening shifts ds w) (hl : w.work = .done l)
    (hunbroken : ∀ a, l.phase ≠ .broken a) : Completes s listening shifts ds l.tally := by
  obtain ⟨-, hkeeps⟩ | ⟨-, hrests⟩ := h
  · rw [hl] at hkeeps
    exact hkeeps.completes hunbroken
  · rw [hl] at hrests
    exact hrests

theorem Closes.step (h : Closes s listening shifts ds w) (hs : Step s listening w m v) (hm : m ≠ .send false) :
    Closes s listening shifts (ds ++ m.deed?.toList) v := by
  have hleaving {w : Watch} (hw : w.IsLeaving (Completes s listening shifts ds)) (hs : Step s listening w m v) :
      Closes s listening shifts (ds ++ m.deed?.toList) v := by
    obtain ⟨hv, hnone⟩ := hw.step hs hm
    rw [hnone, Option.toList_none, List.append_nil]
    exact .inr hv
  obtain ⟨hflag, hkeeps⟩ | hw := h
  · cases hs with
    | work p q c d? hp => exact .inl ⟨hflag, hkeeps.takes hp⟩
    | send p c flag hc =>
        cases flag with
        | false => exact absurd rfl hm
        | true => exact .inl ⟨rfl, (List.append_nil ds).symm ▸ hkeeps⟩
    | close p c => exact .inl ⟨hflag, (List.append_nil ds).symm ▸ hkeeps⟩
    | elapse t d c => exact hleaving ⟨hflag, hkeeps.completes nofun⟩ (.elapse t d c)
    | notice t d c hc => exact hleaving ⟨hflag, hkeeps.completes nofun⟩ (.notice t d c hc)
    | lose t d c hc hlost => exact hleaving ⟨hflag, hkeeps.completes nofun⟩ (.lose t d c hc hlost)
  · exact hleaving hw hs

theorem Closes.runs (h : Closes s listening shifts ds w) (hruns : Runs s listening w ms v) (hms : .send false ∉ ms) :
    Closes s listening shifts (ds ++ deeds ms) v := by
  induction hruns with
  | rest => exact (List.append_nil ds).symm ▸ h
  | step _ hs ih =>
      rw [List.mem_append, List.mem_singleton, not_or] at hms
      rw [deeds_concat, ← List.append_assoc]
      exact (ih hms.1).step hs (Ne.symm hms.2)

theorem isLeaving_told (h : Runs s listening (start s listening c) ms w) (hflag : w.channel.flag = true)
    (hrest : ms = [] ∨ ∃ l, w.work = .done l) : w.IsLeaving fun _ => True := by
  refine ⟨hflag, ?_⟩
  obtain rfl | ⟨l, hl⟩ := hrest
  · generalize hms : ([] : List Moment) = ms at h
    cases h with
    | rest =>
        rw [start, show c.flag = true from hflag]
        exact trivial
    | step => exact absurd hms (by simp)
  · rw [hl]
    exact trivial

theorem ends_of_takes (hgo : ∃ d? q, p.Takes d? q) (hends : ∀ d? q, p.Takes d? q → Ends s listening q) :
    Ends s listening p := by
  obtain ⟨d?, q, hq⟩ := hgo
  refine .goesOn p (fun c _ => ⟨.work d?, ⟨q, c⟩, trivial, .work p q c d? hq⟩) fun c m w _ hown hs => ?_
  cases hs with
  | work p q c d? hp => exact hends d? q hp
  | send | close => exact hown.elim
  | elapse | notice | lose => cases hq

theorem ends_stop (t : Tally) : Ends s listening (stop s (backend listening) t) := by
  refine ends_of_takes ⟨none, _, .log _ _⟩ fun d? q hq => ?_
  cases hq
  exact .ended _ nofun

theorem ends (p : Program Loop) : Ends s listening p := by
  induction p with
  | done l =>
      obtain ⟨t, phase⟩ := l
      cases phase with
      | stopped => exact .ended _ nofun
      | broken a => exact .ended _ nofun
      | pausing d =>
          refine .goesOn _ (fun c _ => ⟨.elapse, _, trivial, .elapse t d c⟩) fun c m w hflag hown hs => ?_
          cases hs with
          | work p q c d? hp => cases hp
          | send | close => exact hown.elim
          | elapse =>
              rw [if_pos hflag]
              exact ends_stop t
          | notice =>
              rw [hflag]
              exact ends_stop t
          | lose => exact ends_stop t
  | now next ih =>
      refine ends_of_takes ⟨none, _, .now next .epoch⟩ fun d? q hq => ?_
      cases hq
      exact ih _
  | claim take worker lease t next ih =>
      refine ends_of_takes ⟨_, _, .claim take worker lease t next (.ok [])⟩ fun d? q hq => ?_
      cases hq
      exact ih _
  | publish m next ih =>
      refine ends_of_takes ⟨_, _, .publish m next (.ok (.ok ()))⟩ fun d? q hq => ?_
      cases hq
      exact ih _
  | markProcessed id t next ih =>
      refine ends_of_takes ⟨_, _, .markProcessed id t next (.ok ())⟩ fun d? q hq => ?_
      cases hq
      exact ih _
  | markFailed id error t policy next ih =>
      refine ends_of_takes ⟨_, _, .markFailed id error t policy next (.ok .unchanged)⟩ fun d? q hq => ?_
      cases hq
      exact ih _
  | log e next ih =>
      refine ends_of_takes ⟨_, _, .log e next⟩ fun d? q hq => ?_
      cases hq
      exact ih

/-- Whatever a worker is answered and whenever its flag is set: it goes from one whole iteration to the next, and
whenever it is between two, or has stopped, its tally sums them up. Once the flag is set it completes the iteration
under way, and has no other; it does nothing at all if the flag is set between two, or before it starts. And while the
flag is set it comes to an end. -/
theorem stops_gracefully (hruns : Runs s listening (start s listening c) ms w) : ∃ shifts begun,
    (∀ x ∈ shifts, x.IsWhole s listening) ∧ deeds ms = shifts.flatMap (·.deeds) ++ begun ∧
    (∀ l, w.work = .done l → (∀ a, l.phase ≠ .broken a) → Completes s listening shifts begun l.tally) ∧
    (w.channel.flag = true → ∀ more v, Runs s listening w more v → .send false ∉ more → v.channel.flag = true ∧
      (∀ l, v.work = .done l → (∀ a, l.phase ≠ .broken a) →
        Completes s listening shifts (begun ++ deeds more) l.tally) ∧
      (ms = [] ∨ (∃ l, w.work = .done l) → deeds more = [])) ∧
    Ends s listening w.work := by
  obtain ⟨shifts, begun, hdeeds, hkeeps⟩ := keeps_runs hruns
  refine ⟨shifts, begun, hkeeps.whole, hdeeds, ?_, ?_, ends w.work⟩
  · intro l hl hunbroken
    rw [hl] at hkeeps
    exact hkeeps.completes hunbroken
  · intro hflag more v hmore hsends
    have hcloses : Closes s listening shifts (begun ++ deeds more) v := Closes.runs (.inl ⟨hflag, hkeeps⟩) hmore hsends
    refine ⟨hcloses.flag, fun l hl hunbroken => hcloses.completes hl hunbroken, fun hrest => ?_⟩
    exact ((isLeaving_told hruns hflag hrest).runs hmore hsends).2

theorem stops_gracefully_amid_publish : let s := Settings.standard "worker"
    ∃ before after w v, Runs s false (start s false ⟨false, false, true⟩) (before ++ [.send true]) w ∧
      Runs s false w after v ∧ v.work = .done ⟨⟨1, 1, 1, 0, 0, 0⟩, .stopped⟩ ∧ v.channel.flag = true ∧
      ∃ shifts begun, (∀ x ∈ shifts, x.IsWhole s false) ∧
        deeds (before ++ [.send true]) = shifts.flatMap (·.deeds) ++ begun ∧
        Completes s false shifts (begun ++ deeds after) ⟨1, 1, 1, 0, 0, 0⟩ ∧ Ends s false w.work := by
  intro s
  have hstart : Runs s false (start s false ⟨false, false, true⟩) [] _ := .rest
  have hread := (hstart.step (.work _ _ _ _ (.log _ _))).step (.work _ _ _ _ (.now _ .epoch))
  have hclaimed := (hread.step (.work _ _ _ _ (.claim _ _ _ _ _ (.ok [Row.sample 7])))).step (.work _ _ _ _ (.log _ _))
  have htold := hclaimed.step (.send _ _ true rfl)
  have hrest {w v : Watch} {ms : List Moment} (_ : Runs s false w ms v) : Runs s false v [] v := .rest
  have hpublished := (hrest htold).step (.work _ _ _ _ (.publish _ _ (.ok (.ok ()))))
  have hreread := hpublished.step (.work _ _ _ _ (.now _ .epoch))
  have hmarked := (hreread.step (.work _ _ _ _ (.markProcessed _ _ _ (.ok ())))).step (.work _ _ _ _ (.log _ _))
  have hstopped := (hmarked.step (.notice _ _ _ rfl)).step (.work _ _ _ _ (.log _ _))
  obtain ⟨shifts, begun, hshifts, hdeeds, -, hcloses, hends⟩ := stops_gracefully htold
  obtain ⟨hflag, hcompletes, -⟩ := hcloses rfl _ _ hstopped (by simp)
  exact ⟨[.work none, .work none, .work _, .work none], _, _, _, htold, hstopped, rfl, hflag, shifts, begun, hshifts,
    hdeeds, hcompletes _ rfl nofun, hends⟩

end Watch

end Outbox

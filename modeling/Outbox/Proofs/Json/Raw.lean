import Outbox.Proofs.Json.Token

namespace Outbox.Json

namespace Raw

def after (fuel : Nat) (frames : List Frame) (rest : List Char) : Except Failure (List Char) :=
  if frames.isEmpty then .ok rest else scan fuel frames .closed rest

/-- A scan gets past a value, in no more than two steps for each of its characters. -/
def Passes (v : List Char) : Prop :=
  ∃ n ≤ 2 * v.length, ∀ fuel frames gap rest, IsBlank gap → Number.Stops rest →
    scan (fuel + n) frames .value (gap ++ (v ++ rest)) = after fuel frames rest

theorem stops_blank {gap rest : List Char} (hgap : IsBlank gap) (hrest : Number.Stops rest) :
    Number.Stops (gap ++ rest) := by
  cases gap with
  | nil => exact hrest
  | cons c gap =>
      rintro d ⟨⟩
      have hc := hgap c (List.mem_cons_self ..)
      simp only [isSpace, Bool.or_eq_true, beq_iff_eq] at hc
      rcases hc with ((rfl | rfl) | rfl) | rfl <;> decide

theorem stops_ending (frame : Frame) (ps : List Part) (rest : List Char) : Number.Stops (ending frame ps ++ rest) := by
  cases ps with
  | nil =>
      rintro c ⟨⟩
      cases frame <;> decide
  | cons p ps =>
      rintro c ⟨⟩
      decide

theorem passes_token {v : List Char} (h : IsToken v) : Passes v := by
  have hv := h.isValue
  refine ⟨1, ?_, fun fuel frames gap rest hgap hrest => ?_⟩
  · obtain ⟨c, cs, rfl, -, -⟩ := hv.cons
    rw [List.length_cons]
    omega
  · rw [scan, skipSpace_value hv hgap, token_append h hrest]
    rfl

theorem scan_between {stage : Stage} (hstage : stage ≠ .value) {c : Char} {cs rest : List Char}
    (h : skipSpace cs = c :: rest) (fuel : Nat) (frame : Frame) (frames : List Frame) :
    scan (fuel + 1) (frame :: frames) stage cs =
      if c = Frame.closer frame then after fuel frames rest
      else if stage = .opened then part frame (c :: rest) >>= scan fuel (frame :: frames) .value
      else if c = ',' then part frame rest >>= scan fuel (frame :: frames) .value
      else .error (.next (Frame.separatorWanted frame) (c :: rest)) := by
  rw [scan, h]
  · simp only [after, bind, Except.bind]
    cases part frame (c :: rest) <;> cases part frame rest <;> rfl
  · exact hstage

theorem scan_close (frame : Frame) {stage : Stage} (hstage : stage ≠ .value) (fuel : Nat) (frames : List Frame)
    {gap : List Char} (hgap : IsBlank gap) (rest : List Char) :
    scan (fuel + 1) (frame :: frames) stage (gap ++ (ending frame [] ++ rest)) = after fuel frames rest := by
  have hskip : skipSpace (gap ++ (ending frame [] ++ rest)) = Frame.closer frame :: rest := by
    rw [skipSpace_blank hgap]
    cases frame <;> rfl
  rw [scan_between hstage hskip, if_pos rfl]

theorem scan_comma {frame : Frame} {p : Part} (h : p.IsIn frame) (fuel : Nat) (frames : List Frame) {gap : List Char}
    (hgap : IsBlank gap) (rest : List Char) :
    scan (fuel + 1) (frame :: frames) .closed (gap ++ ',' :: (p.label ++ rest)) =
      scan fuel (frame :: frames) .value rest := by
  have hskip : skipSpace (gap ++ ',' :: (p.label ++ rest)) = ',' :: (p.label ++ rest) := by
    rw [skipSpace_blank hgap]
    rfl
  have hcloser : ¬ ',' = Frame.closer frame := by cases frame <;> decide
  rw [scan_between (by decide) hskip, if_neg hcloser, if_neg (by decide), if_pos rfl, part_label h.label]
  rfl

theorem scan_first {frame : Frame} {p : Part} (h : p.IsIn frame) (hv : IsValue p.value) (rest : List Char) :
    ∃ gap, IsBlank gap ∧ ∀ fuel frames, scan (fuel + 1) (frame :: frames) .opened (p.chars ++ rest) =
      scan fuel (frame :: frames) .value (gap ++ (p.value ++ (p.after ++ rest))) := by
  obtain ⟨n, label, before, value, behind⟩ := p
  obtain ⟨hlabel, hbefore, -⟩ := h
  dsimp only at hlabel hbefore hv
  have hchars : (Part.mk n label before value behind).chars ++ rest =
      label ++ (before ++ (value ++ (behind ++ rest))) := by simp [Part.chars]
  rw [hchars]
  cases hlabel with
  | list =>
      obtain ⟨c, cs, rfl, -, hcloser⟩ := hv.cons
      have hskip := skipSpace_value hv hbefore (behind ++ rest)
      rw [List.cons_append] at hskip
      have hopen : ¬ c = Frame.closer .list := hcloser
      refine ⟨[], .nil, fun fuel frames => ?_⟩
      rw [List.nil_append, List.cons_append, scan_between (by decide) hskip, if_neg hopen, if_pos rfl]
      rfl
  | object gap _ gap' hgap hname hgap' =>
      obtain ⟨inner, hinner, rfl⟩ := hname
      have hpart := part_label (.object [] _ gap' .nil ⟨inner, hinner, rfl⟩ hgap')
        (before ++ (value ++ (behind ++ rest)))
      have hskip : skipSpace (gap ++ ('"' :: (inner ++ ['"']) ++ (gap' ++ [':'])) ++
          (before ++ (value ++ (behind ++ rest)))) =
            '"' :: (inner ++ ['"'] ++ (gap' ++ [':']) ++ (before ++ (value ++ (behind ++ rest)))) := by
        rw [List.append_assoc, skipSpace_blank hgap]
        rfl
      rw [List.nil_append, List.cons_append, List.cons_append] at hpart
      refine ⟨before, hbefore, fun fuel frames => ?_⟩
      rw [scan_between (by decide) hskip, if_neg (by decide), if_pos rfl, hpart]
      rfl

theorem passes_parts {frame : Frame} {ps : List Part} (h : ∀ p ∈ ps, p.IsIn frame) (hv : ∀ p ∈ ps, Passes p.value) :
    ∃ n ≤ 2 * (ending frame ps).length, ∀ fuel frames gap rest, IsBlank gap →
      scan (fuel + n) (frame :: frames) .closed (gap ++ (ending frame ps ++ rest)) = after fuel frames rest := by
  induction ps with
  | nil =>
      exact ⟨1, by simp [ending], fun fuel frames gap rest hgap => scan_close frame (by decide) fuel frames hgap rest⟩
  | cons p ps ih =>
      obtain ⟨hp, hps⟩ := List.forall_mem_cons.1 h
      obtain ⟨⟨n₁, hn₁, hvalue⟩, hvs⟩ := List.forall_mem_cons.1 hv
      obtain ⟨n₂, hn₂, hrest⟩ := ih hps hvs
      refine ⟨n₂ + n₁ + 1, ?_, fun fuel frames gap rest hgap => ?_⟩
      · simp only [ending, List.flatMap_cons, Part.chars, List.length_append, List.length_cons] at hn₂ ⊢
        omega
      · have hchars : ending frame (p :: ps) ++ rest =
            ',' :: (p.label ++ (p.before ++ (p.value ++ (p.after ++ (ending frame ps ++ rest))))) := by
          simp [ending, Part.chars]
        have hstops := stops_blank hp.after (stops_ending frame ps rest)
        rw [hchars, ← Nat.add_assoc, ← Nat.add_assoc, scan_comma hp _ _ hgap, hvalue _ _ _ _ hp.before hstops]
        exact hrest fuel frames p.after rest hp.after

theorem passes_nested {frame : Frame} {cs : List Char} {ps : List Part} (h : Encloses frame cs ps)
    (hvalues : ∀ p ∈ ps, IsValue p.value) (hv : ∀ p ∈ ps, Passes p.value) : Passes cs := by
  have hopen (gap inside rest : List Char) (hgap : IsBlank gap) :
      token (skipSpace (gap ++ (opener frame :: inside ++ rest))) = .ok (some frame, inside ++ rest) := by
    rw [skipSpace_blank hgap]
    cases frame <;> rfl
  cases h with
  | empty inner hinner =>
      refine ⟨2, by simp, fun fuel frames gap rest hgap _ => ?_⟩
      rw [scan, hopen _ _ _ hgap, List.append_assoc]
      exact scan_close frame (by decide) fuel frames hinner rest
  | parts p ps h =>
      obtain ⟨hp, hps⟩ := List.forall_mem_cons.1 h
      obtain ⟨⟨n₁, hn₁, hvalue⟩, hvs⟩ := List.forall_mem_cons.1 hv
      obtain ⟨n₂, hn₂, hrest⟩ := passes_parts hps hvs
      refine ⟨n₂ + n₁ + 1 + 1, ?_, fun fuel frames gap rest hgap _ => ?_⟩
      · simp only [Part.chars, List.length_append, List.length_cons]
        omega
      · obtain ⟨gap', hgap', hfirst⟩ := scan_first hp (hvalues p (List.mem_cons_self ..)) (ending frame ps ++ rest)
        have hstops := stops_blank hp.after (stops_ending frame ps rest)
        rw [← Nat.add_assoc, ← Nat.add_assoc, ← Nat.add_assoc, scan, hopen _ _ _ hgap, List.append_assoc]
        dsimp only
        rw [hfirst, hvalue _ _ _ _ hgap' hstops]
        exact hrest fuel frames p.after rest hp.after

theorem passes {v : List Char} (h : IsValue v) : Passes v := by
  induction h with
  | word cs h => exact passes_token (.inl h)
  | number cs h => exact passes_token (.inr (.inl h))
  | string cs h => exact passes_token (.inr (.inr h))
  | nested frame cs ps h hvalues ih => exact passes_nested h hvalues ih

/-- What is still to come after a value in brackets, the inmost first: more parts in each of them, and its end. -/
def Completes : List Frame → List Char → Prop
  | [], cs => cs = []
  | frame :: frames, cs => ∃ gap ps rest, IsBlank gap ∧ (∀ p ∈ ps, p.IsIn frame ∧ IsValue p.value) ∧
      Completes frames rest ∧ cs = gap ++ (ending frame ps ++ rest)

def Remains : List Frame → Stage → List Char → Prop
  | frames, .value, cs => ∃ gap v rest, IsBlank gap ∧ IsValue v ∧ Completes frames rest ∧ cs = gap ++ (v ++ rest)
  | [], .opened, cs => cs = []
  | frame :: frames, .opened, cs => ∃ inside ps rest, Encloses frame (opener frame :: inside) ps ∧
      (∀ p ∈ ps, IsValue p.value) ∧ Completes frames rest ∧ cs = inside ++ rest
  | frames, .closed, cs => Completes frames cs

variable {frame : Frame} {frames : List Frame} {stage : Stage} {gap n label cs rest : List Char}

theorem remains_close (hstage : stage ≠ .value) (hgap : IsBlank gap) (h : Completes frames cs) :
    Remains (frame :: frames) stage (gap ++ Frame.closer frame :: cs) := by
  cases stage with
  | value => exact absurd rfl hstage
  | opened => exact ⟨_, [], cs, .empty gap hgap, by simp, h, by simp [ending]⟩
  | closed => exact ⟨gap, [], cs, hgap, by simp, h, rfl⟩

theorem remains_comma (hlabel : Part.Labels frame n label) (hgap : IsBlank gap)
    (h : Remains (frame :: frames) .value cs) : Remains (frame :: frames) .closed (gap ++ ',' :: (label ++ cs)) := by
  obtain ⟨before, v, _, hbefore, hv, ⟨after, ps, rest, hafter, hps, hrest, rfl⟩, rfl⟩ := h
  refine ⟨gap, ⟨n, label, before, v, after⟩ :: ps, rest, hgap, ?_, hrest, by simp [ending, Part.chars]⟩
  exact List.forall_mem_cons.2 ⟨⟨⟨hlabel, hbefore, hafter⟩, hv⟩, hps⟩

theorem remains_first (hlabel : Part.Labels frame n label) (hgap : IsBlank gap)
    (h : Remains (frame :: frames) .value cs) : Remains (frame :: frames) .opened (gap ++ (label ++ cs)) := by
  obtain ⟨before, v, _, hbefore, hv, ⟨after, ps, rest, hafter, hps, hrest, rfl⟩, rfl⟩ := h
  obtain ⟨label', before', hlabel', hbefore', heq⟩ : ∃ label' before', Part.Labels frame n label' ∧
      IsBlank before' ∧ gap ++ (label ++ before) = label' ++ before' := by
    cases hlabel with
    | list => exact ⟨[], gap ++ before, .list, hgap.append hbefore, rfl⟩
    | object gap' _ behind hgap' hname hbehind =>
        exact ⟨_, before, .object (gap ++ gap') n behind (hgap.append hgap') hname hbehind, hbefore, by simp⟩
  let p : Part := ⟨n, label', before', v, after⟩
  have hps' : ∀ q ∈ p :: ps, q.IsIn frame ∧ IsValue q.value :=
    List.forall_mem_cons.2 ⟨⟨⟨hlabel', hbefore', hafter⟩, hv⟩, hps⟩
  refine ⟨p.chars ++ ending frame ps, p :: ps, rest, .parts p ps fun q hq => (hps' q hq).1,
    fun q hq => (hps' q hq).2, hrest, ?_⟩
  have hchars : p.chars = label' ++ (before' ++ (v ++ after)) := rfl
  have hall := congrArg (· ++ (v ++ (after ++ (ending frame ps ++ rest)))) heq
  simp only [List.append_assoc] at hall
  rw [hchars]
  simp only [List.append_assoc, hall]

theorem remains_opener (hgap : IsBlank gap) (h : Remains (frame :: frames) .opened cs) :
    Remains frames .value (gap ++ opener frame :: cs) := by
  obtain ⟨inside, ps, rest, hencloses, hvalues, hrest, rfl⟩ := h
  exact ⟨gap, opener frame :: inside, rest, hgap, .nested frame _ ps hencloses hvalues, hrest, rfl⟩

/-- A scan that ends has passed over what remained at its stage. -/
theorem remains_of_scan {fuel : Nat} (h : scan fuel frames stage cs = .ok rest) :
    ∃ passed, Remains frames stage passed ∧ cs = passed ++ rest := by
  induction fuel generalizing frames stage cs with
  | zero => cases h
  | succ fuel ih =>
      have hafter {frames : List Frame} {cs : List Char} (h : after fuel frames cs = .ok rest) :
          ∃ passed, Completes frames passed ∧ cs = passed ++ rest := by
        cases frames with
        | nil => cases h; exact ⟨[], rfl, rfl⟩
        | cons frame frames => exact ih h
      have hinside {frame : Frame} {frames : List Frame} {cs : List Char}
          (h : part frame cs >>= scan fuel (frame :: frames) .value = .ok rest) :
          ∃ n label passed, Part.Labels frame n label ∧ Remains (frame :: frames) .value passed ∧
            cs = label ++ (passed ++ rest) := by
        cases hpart : part frame cs with
        | error failure => rw [hpart] at h; cases h
        | ok inside =>
            obtain ⟨n, label, hlabel, rfl⟩ := label_of_part hpart
            rw [hpart] at h
            obtain ⟨passed, hpassed, rfl⟩ := ih h
            exact ⟨n, label, passed, hlabel, hpassed, rfl⟩
      obtain ⟨gap, hgap, hcs⟩ := blank_skipSpace cs
      by_cases hstage : stage = .value
      · subst hstage
        rw [scan] at h
        cases htoken : token (skipSpace cs) with
        | error failure => rw [htoken] at h; cases h
        | ok p =>
            obtain ⟨frame?, beyond⟩ := p
            rw [htoken] at h
            rcases token_of_ok htoken with ⟨rfl, v, hv, heq⟩ | ⟨frame, rfl, heq⟩
            · obtain ⟨passed, hpassed, rfl⟩ := hafter h
              exact ⟨gap ++ (v ++ passed), ⟨gap, v, passed, hgap, hv.isValue, hpassed, rfl⟩, by rw [hcs, heq]; simp⟩
            · obtain ⟨passed, hpassed, rfl⟩ := ih h
              exact ⟨_, remains_opener hgap hpassed, by rw [hcs, heq]; simp⟩
      · cases frames with
        | nil =>
            cases stage with
            | value => exact absurd rfl hstage
            | opened => cases h; exact ⟨[], rfl, rfl⟩
            | closed => cases h; exact ⟨[], rfl, rfl⟩
        | cons frame frames =>
            cases hskip : skipSpace cs with
            | nil =>
                rw [scan, hskip] at h
                · cases h
                · exact hstage
            | cons c beyond =>
                rw [scan_between hstage hskip] at h
                split_ifs at h with hcloser hopened hcomma
                · obtain ⟨passed, hpassed, rfl⟩ := hafter h
                  exact ⟨_, remains_close hstage hgap hpassed, by rw [hcs, hskip, hcloser]; simp⟩
                · obtain ⟨n, label, passed, hlabel, hpassed, heq⟩ := hinside h
                  subst hopened
                  exact ⟨_, remains_first hlabel hgap hpassed, by rw [hcs, hskip, heq]; simp⟩
                · obtain ⟨n, label, passed, hlabel, hpassed, rfl⟩ := hinside h
                  have hclosed : stage = .closed := by cases stage <;> simp_all
                  subst hclosed
                  exact ⟨_, remains_comma hlabel hgap hpassed, by rw [hcs, hskip, hcomma]; simp⟩

theorem scan_value {v rest : List Char} (h : IsValue v) (hrest : Number.Stops rest) {fuel : Nat}
    (hfuel : 2 * v.length ≤ fuel) : scan fuel [] .value (v ++ rest) = .ok rest := by
  obtain ⟨n, hn, hscan⟩ := passes h
  have hpass := hscan (fuel - n) [] [] rest .nil hrest
  rwa [Nat.sub_add_cancel (hn.trans hfuel)] at hpass

end Raw

theorem stops_of_blank {gap : List Char} (h : IsBlank gap) : Number.Stops gap := by
  rw [← List.append_nil gap]
  exact Raw.stops_blank h (by simp [Number.Stops])

theorem rawText_append {cs v rest : List Char} (hskip : skipSpace cs = v ++ rest)
    (hscan : Raw.value (v ++ rest).length (v ++ rest) = .ok rest) : rawText cs = .ok (String.ofList v, rest) := by
  have hlength : (v ++ rest).length - rest.length = v.length := by rw [List.length_append, Nat.add_sub_cancel]
  simp only [rawText, hskip, hscan, bind, Except.bind, pure, Except.pure, hlength, List.take_left]

/-- A text is kept exactly if it is one value between blanks, and then without these. -/
theorem trimmed_eq_ok_iff {s v : String} : trimmed s = .ok v ↔ Holds s v := by
  constructor
  · intro h
    obtain ⟨gap, hgap, hs⟩ := blank_skipSpace s.toList
    cases hscan : Raw.value (skipSpace s.toList).length (skipSpace s.toList) with
    | error failure => simp [trimmed, readAll, rawText, hscan, bind, Except.bind] at h
    | ok rest =>
        obtain ⟨_, ⟨gap', text, _, hgap', hv, rfl, rfl⟩, heq⟩ := Raw.remains_of_scan hscan
        have hnone : gap' = [] := by
          cases gap' with
          | nil => rfl
          | cons c gap' =>
              have hhead := List.head?_dropWhile_not isSpace s.toList
              rw [← skipSpace, heq] at hhead
              exact absurd (hgap' c (List.mem_cons_self ..)) (by simpa using hhead)
        rw [hnone, List.nil_append, List.append_nil] at heq
        rw [heq] at hscan
        simp only [trimmed, readAll, rawText_append heq hscan] at h
        split at h
        · rename_i hrest
          cases h
          refine ⟨gap, rest, hgap, skipSpace_eq_nil.1 hrest, ?_, ?_⟩
          · rwa [String.toList_ofList]
          · rw [String.toList_ofList, hs, heq]
        · cases h
  · rintro ⟨before, behind, hbefore, hbehind, hv, hs⟩
    have hskip := Raw.skipSpace_value hv hbefore behind
    rw [← hs] at hskip
    have hscan : Raw.value (v.toList ++ behind).length (v.toList ++ behind) = .ok behind :=
      Raw.scan_value hv (stops_of_blank hbehind) (by rw [List.length_append]; omega)
    simp [trimmed, readAll, rawText_append hskip hscan, skipSpace_eq_nil.2 hbehind]

theorem trimmed_render {ms : List (String × Json)} (h : Own (.object ms)) :
    trimmed (Json.object ms).render = .ok (Json.object ms).render :=
  trimmed_eq_ok_iff.2 ⟨[], [], .nil, .nil, h.isValue, by simp⟩

end Outbox.Json

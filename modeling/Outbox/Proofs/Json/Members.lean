import Mathlib.Data.List.Forall2
import Outbox.Proofs.Json.Raw

namespace Outbox.Json

theorem blank_append_inj {a b x y : List Char} (ha : IsBlank a) (hb : IsBlank b) (hx : skipSpace x = x)
    (hy : skipSpace y = y) (h : a ++ x = b ++ y) : a = b ∧ x = y := by
  have hskip := congrArg skipSpace h
  rw [skipSpace_blank ha, skipSpace_blank hb, hx, hy] at hskip
  rw [hskip] at h
  exact ⟨List.append_cancel_right h, hskip⟩

theorem string_append_inj {s t a b : List Char} (hs : IsString s) (ht : IsString t) (h : s ++ a = t ++ b) :
    s = t ∧ a = b := by
  obtain ⟨inner, hinner, rfl⟩ := hs
  obtain ⟨inner', hinner', rfl⟩ := ht
  have hrest := h
  simp only [List.cons_append, List.append_assoc, List.nil_append, List.cons.injEq, true_and] at hrest
  have hread := Raw.string_inner hinner a
  rw [hrest, Raw.string_inner hinner'] at hread
  obtain rfl := Except.ok.inj hread
  exact ⟨List.append_cancel_right h, rfl⟩

theorem value_append_inj {v w a b : List Char} (hv : IsValue v) (hw : IsValue w) (ha : Number.Stops a)
    (hb : Number.Stops b) (h : v ++ a = w ++ b) : v = w ∧ a = b := by
  have hscan : Raw.scan (2 * v.length + 2 * w.length) [] .value (v ++ a) = .ok a := Raw.scan_value hv ha (by omega)
  rw [h, Raw.scan_value hw hb (by omega)] at hscan
  obtain rfl := Except.ok.inj hscan
  exact ⟨List.append_cancel_right h, rfl⟩

theorem skipSpace_string {s : List Char} (h : IsString s) (rest : List Char) : skipSpace (s ++ rest) = s ++ rest := by
  obtain ⟨inner, -, rfl⟩ := h
  rfl

theorem skipSpace_ending (frame : Frame) (ps : List Part) (rest : List Char) :
    skipSpace (ending frame ps ++ rest) = ending frame ps ++ rest := by
  cases ps with
  | nil => cases frame <;> rfl
  | cons p ps => rfl

theorem label_append_inj {n m label label' a b : List Char} (h : Part.Labels .object n label)
    (h' : Part.Labels .object m label') (heq : label ++ a = label' ++ b) : n = m ∧ a = b := by
  cases h with
  | object before _ after hbefore hn hafter =>
      cases h' with
      | object before' _ after' hbefore' hm hafter' =>
          simp only [List.append_assoc] at heq
          obtain ⟨-, hname⟩ := blank_append_inj hbefore hbefore' (skipSpace_string hn _) (skipSpace_string hm _) heq
          obtain ⟨hsame, hcolon⟩ := string_append_inj hn hm hname
          obtain ⟨-, hrest⟩ := blank_append_inj hafter hafter' rfl rfl hcolon
          exact ⟨hsame, List.append_cancel_left hrest⟩

def Part.IsMember (p : Part) : Prop := p.IsIn .object ∧ IsValue p.value

theorem part_append_inj {p q : Part} (hp : p.IsMember) (hq : q.IsMember) {ps qs : List Part} {a b : List Char}
    (h : p.chars ++ (ending .object ps ++ a) = q.chars ++ (ending .object qs ++ b)) :
    (p.name = q.name ∧ p.value = q.value) ∧ ending .object ps ++ a = ending .object qs ++ b := by
  obtain ⟨⟨hlabel, hbefore, hafter⟩, hv⟩ := hp
  obtain ⟨⟨hlabel', hbefore', hafter'⟩, hv'⟩ := hq
  simp only [Part.chars, List.append_assoc] at h
  obtain ⟨hname, h⟩ := label_append_inj hlabel hlabel' h
  obtain ⟨-, h⟩ := blank_append_inj hbefore hbefore' (Raw.skipSpace_value hv .nil _) (Raw.skipSpace_value hv' .nil _) h
  obtain ⟨hvalue, h⟩ := value_append_inj hv hv' (Raw.stops_blank hafter (Raw.stops_ending .object ps a))
    (Raw.stops_blank hafter' (Raw.stops_ending .object qs b)) h
  exact ⟨⟨hname, hvalue⟩, (blank_append_inj hafter hafter' (skipSpace_ending ..) (skipSpace_ending ..) h).2⟩

theorem ending_append_inj {ps qs : List Part} (hps : ∀ p ∈ ps, p.IsMember) (hqs : ∀ q ∈ qs, q.IsMember)
    {a b : List Char} (h : ending .object ps ++ a = ending .object qs ++ b) :
    List.Forall₂ (fun p q => p.name = q.name ∧ p.value = q.value) ps qs := by
  induction ps generalizing qs with
  | nil =>
      cases qs with
      | nil => exact .nil
      | cons q qs => exact absurd (List.cons.inj h).1 (by decide)
  | cons p ps ih =>
      cases qs with
      | nil => exact absurd (List.cons.inj h).1 (by decide)
      | cons q qs =>
          obtain ⟨hp, hps⟩ := List.forall_mem_cons.1 hps
          obtain ⟨hq, hqs⟩ := List.forall_mem_cons.1 hqs
          have hrest : p.chars ++ (ending .object ps ++ a) = q.chars ++ (ending .object qs ++ b) := by
            simpa [ending] using h
          obtain ⟨hsame, hrest⟩ := part_append_inj hp hq hrest
          exact .cons hsame (ih hps hqs hrest)

theorem gap_ne_chars {p : Part} (hp : p.IsMember) {gap rest : List Char} (hgap : IsBlank gap) :
    gap ++ ending .object [] ≠ p.chars ++ rest := by
  intro h
  obtain ⟨n, label, before, value, after⟩ := p
  obtain ⟨⟨hlabel, -, -⟩, -⟩ := hp
  dsimp only at hlabel
  cases hlabel with
  | object before' _ after' hbefore' hname hafter' =>
      simp only [Part.chars, List.append_assoc] at h
      obtain ⟨inner, hinner, rfl⟩ := hname
      obtain ⟨-, h⟩ := blank_append_inj hgap hbefore' rfl rfl h
      exact absurd (List.cons.inj h).1 (by decide)

theorem encloses_unique {cs : List Char} {ps qs : List Part} (hps : Encloses .object cs ps)
    (hqs : Encloses .object cs qs) (hv : ∀ p ∈ ps, IsValue p.value) (hw : ∀ q ∈ qs, IsValue q.value) :
    List.Forall₂ (fun p q => p.name = q.name ∧ p.value = q.value) ps qs := by
  have hmember {p : Part} {ps : List Part} (h : ∀ q ∈ p :: ps, q.IsIn .object) (hv : ∀ q ∈ p :: ps, IsValue q.value) :
      p.IsMember ∧ ∀ q ∈ ps, q.IsMember :=
    List.forall_mem_cons.1 fun q hq => ⟨h q hq, hv q hq⟩
  generalize hcs : cs = cs' at hqs
  cases hps with
  | empty gap hgap =>
      cases hqs with
      | empty gap' hgap' => exact .nil
      | parts q qs hqs => exact absurd (List.cons.inj hcs).2 (gap_ne_chars (hmember hqs hw).1 hgap)
  | parts p ps hps =>
      obtain ⟨hp, hps⟩ := hmember hps hv
      cases hqs with
      | empty gap hgap => exact absurd (List.cons.inj hcs).2.symm (gap_ne_chars hp hgap)
      | parts q qs hqs =>
          obtain ⟨hq, hqs⟩ := hmember hqs hw
          have hrest := congrArg (· ++ []) (List.cons.inj hcs).2
          simp only [List.append_assoc] at hrest
          obtain ⟨hsame, hrest⟩ := part_append_inj hp hq hrest
          exact .cons hsame (ending_append_inj hps hqs hrest)

theorem IsObject.unique {s : String} {ms ms' : List (String × String)} (h : IsObject s ms) (h' : IsObject s ms') :
    ms = ms' := by
  obtain ⟨ps, hps, hv, rfl⟩ := h
  obtain ⟨qs, hqs, hw, rfl⟩ := h'
  rw [← List.forall₂_eq_eq_eq, List.forall₂_map_left_iff, List.forall₂_map_right_iff]
  refine (encloses_unique hps hqs hv hw).imp ?_
  rintro p q ⟨hname, hvalue⟩
  rw [hname, hvalue]

end Outbox.Json

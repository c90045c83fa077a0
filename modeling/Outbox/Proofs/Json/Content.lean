import Outbox.Proofs.Json.Reader

namespace Outbox.Json

variable {β κ : Type}

inductive Kept : Json → Content → Prop
  | flag (b : Bool) : Kept (.flag b) (.flag b)
  | text (s : String) : Kept (.text s) (.text s)

theorem Kept.reads {v : Json} {c : Content} (h : Kept v c) (fuel depth : Nat) :
    Reads (Content.read (fuel + 1) depth) v c := by
  intro d rest _
  cases h with
  | flag b =>
      cases b with
      | false => rfl
      | true => rfl
  | text s =>
      change Content.read (fuel + 1) depth ((quote s).toList ++ d :: rest) = _
      rw [toList_quote, List.cons_append, Content.read, skipSpace_cons rfl]
      simp [stringBody_escapes, Except.map]

def KeptMember (tag : String) (m : String × Json) (p : String × Content) : Prop :=
  m.1 = p.1 ∧ m.1 ≠ tag ∧ Kept m.2 p.2

theorem taggedMembers_render {tag : String} {ms : List (String × Json)} {ps : List (String × Content)}
    (hms : List.Forall₂ (KeptMember tag) ms ps) (kind : Reader κ) (depth fuel : Nat) (hfuel : ms.length < fuel)
    (seen : Option κ) (got : List (String × Content)) (isFirst : Bool) (rest : List Char) :
    taggedMembers tag kind fuel depth isFirst seen got (memberChars isFirst ms ++ '\x7d' :: rest) =
      .ok ((seen, got.reverse ++ ps), '\x7d' :: rest) := by
  induction hms generalizing isFirst fuel got with
  | nil =>
      obtain ⟨fuel, rfl⟩ := Nat.exists_eq_succ_of_ne_zero (Nat.ne_of_gt hfuel)
      simp [taggedMembers, memberChars, nextName_close]
  | @cons m p ms ps hm _ ih =>
      obtain ⟨name, v⟩ := m
      obtain ⟨_, content⟩ := p
      obtain ⟨rfl, hne, hkept⟩ := hm
      rw [List.length_cons] at hfuel
      obtain ⟨fuel, rfl⟩ : ∃ k, fuel = k + 2 := ⟨fuel - 2, by omega⟩
      obtain ⟨c, rest', hrest, hc⟩ := memberChars_closes ms rest
      have hnext := ih (fuel + 1) (by omega) ((name, content) :: got) false
      rw [hrest] at hnext
      have hname : ¬ name = tag := hne
      rw [taggedMembers, nextName_member, hrest]
      simp only [if_neg hname, colon_cons, hkept.reads fuel depth c rest' hc]
      rw [hnext]
      simp

theorem tagged_render {tag name : String} {kind : Reader κ} {k : κ} (hkind : Reads kind (.text name) k)
    {ms : List (String × Json)} {ps : List (String × Content)} (hms : List.Forall₂ (KeptMember tag) ms ps)
    (expected : String) {depth : Nat} (hdepth : 1 < depth) (rest : List Char) :
    tagged expected tag kind depth ((Json.object ((tag, .text name) :: ms)).render.toList ++ rest) =
      .ok (.object k ps, rest) := by
  obtain ⟨c, rest', hrest, hc⟩ := memberChars_closes ms rest
  have hlength := length_le_memberChars true ((tag, .text name) :: ms)
  rw [List.length_cons] at hlength
  obtain ⟨fuel, hfuel, hms'⟩ : ∃ fuel, Content.fuelFor ('\x7b' :: (memberChars true ((tag, .text name) :: ms) ++
      '\x7d' :: rest)) = fuel + 1 ∧ ms.length < fuel := by
    refine ⟨_, rfl, ?_⟩
    rw [List.length_cons, List.length_append]
    omega
  have htagged := taggedMembers_render hms kind (depth - 1) fuel hms' (some k) [] false rest
  rw [hrest] at htagged
  have hfirst : taggedMembers tag kind (fuel + 1) (depth - 1) true none []
      (memberChars true ((tag, .text name) :: ms) ++ '\x7d' :: rest) = .ok ((some k, ps), '\x7d' :: rest) := by
    rw [taggedMembers, nextName_member, hrest]
    simp only [if_true, Option.isSome_none, colon_cons, hkind c rest' hc]
    rw [if_neg (by decide), htagged]
    rfl
  have hnested : ¬ depth ≤ 1 := by omega
  rw [toList_render_object, tagged, skipSpace_cons rfl, hfuel]
  simp only [if_neg hnested, hfirst, bind, Except.bind]
  rfl

end Outbox.Json

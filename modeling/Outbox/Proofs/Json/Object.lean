import Outbox.Proofs.Json.Members

namespace Outbox.Json

variable {α β : Type}

/-- A member of an object, and what is read of its value. -/
structure Entry (β : Type) where
  name : String
  json : Json
  value : β

namespace Entry

def member (e : Entry β) : String × Json := (e.name, e.json)

def written (e : Entry β) : String × String := (quote e.name, e.json.render)

def named (e : Entry β) : String × β := (e.name, e.value)

end Entry

/-- One of the slots is for a member, which a part of the text is. -/
structure Shows (slots : List (Slot β)) (p : Part) (e : Entry β) : Prop where
  isIn : p.IsIn .object
  name_eq : p.name = (quote e.name).toList
  value_eq : p.value = e.json.render.toList
  slot : ∃ slot, slots.find? (·.name == e.name) = some slot ∧ ReadsSpaced slot.read e.json e.value

variable {slots : List (Slot β)} {p : Part} {ps : List Part} {e : Entry β} {es : List (Entry β)}

def divider (isFirst : Bool) : List Char := if isFirst then [] else [',']

theorem nextName_spaced (isFirst : Bool) {gap gap' : List Char} (hgap : IsBlank gap) (hgap' : IsBlank gap')
    (name : String) (rest : List Char) :
    nextName isFirst (gap ++ (divider isFirst ++ (gap' ++ ((quote name).toList ++ rest)))) = .ok (some name, rest) := by
  cases isFirst with
  | true =>
      rw [nextName, skipSpace_blank hgap, divider, if_pos rfl, List.nil_append, skipSpace_blank hgap', toList_quote]
      simp [skipSpace_cons, isSpace, stringBody_escapes, Except.map]
  | false =>
      rw [nextName, skipSpace_blank hgap, divider, if_neg (by decide), toList_quote]
      simp [skipSpace_cons, isSpace, skipSpace_blank hgap', stringBody_escapes, Except.map]

theorem colon_spaced {gap : List Char} (hgap : IsBlank gap) (rest : List Char) :
    colon (gap ++ ':' :: rest) = .ok rest := by
  rw [colon, skipSpace_blank hgap]
  rfl

theorem members_part (h : Shows slots p e) (strict isFirst : Bool) (fuel : Nat) (got : List (String × β))
    (hnew : got.lookup e.name = none) {gap rest : List Char} (hgap : IsBlank gap) (hrest : Number.Stops rest) :
    members slots strict (fuel + 1) isFirst got (gap ++ (divider isFirst ++ (p.chars ++ rest))) =
      members slots strict fuel false (got ++ [e.named]) (p.after ++ rest) := by
  obtain ⟨n, label, before, value, after⟩ := p
  obtain ⟨⟨hlabel, hbefore, hafter⟩, hname, hvalue, slot, hslot, hreads⟩ := h
  dsimp only at hlabel hbefore hafter hname hvalue ⊢
  cases hlabel with
  | object ahead _ behind hahead _ hbehind =>
      have hnext := nextName_spaced isFirst hgap hahead e.name
        (behind ++ ':' :: (before ++ (value ++ (after ++ rest))))
      have hread := hreads before (after ++ rest) hbefore (Raw.stops_blank hafter hrest)
      rw [← hvalue] at hread
      have hchars : (Part.mk n (ahead ++ (n ++ (behind ++ [':']))) before value after).chars ++ rest =
          ahead ++ ((quote e.name).toList ++ (behind ++ ':' :: (before ++ (value ++ (after ++ rest))))) := by
        simp [Part.chars, hname]
      rw [hchars, members, hnext]
      simp only [hslot, hnew, Option.isSome_none, colon_spaced hbehind, hread]
      rw [if_neg (by decide)]
      rfl

theorem members_ending (h : List.Forall₂ (Shows slots) ps es) (strict : Bool) (fuel : Nat) (hfuel : es.length < fuel)
    (got : List (String × β)) (hnodup : (got.map (·.1) ++ es.map Entry.name).Nodup) {gap : List Char}
    (hgap : IsBlank gap) (rest : List Char) :
    members slots strict fuel false got (gap ++ (ending .object ps ++ rest)) =
      .ok (got ++ es.map Entry.named, '\x7d' :: rest) := by
  induction h generalizing fuel got gap with
  | nil =>
      obtain ⟨fuel, rfl⟩ := Nat.exists_eq_succ_of_ne_zero (Nat.ne_of_gt hfuel)
      have hclose : nextName false (gap ++ (ending .object [] ++ rest)) = .ok (none, '\x7d' :: rest) := by
        rw [nextName, skipSpace_blank hgap]
        rfl
      rw [members, hclose]
      simp
  | @cons p e ps es hp _ ih =>
      rw [List.length_cons] at hfuel
      obtain ⟨fuel, rfl⟩ := Nat.exists_eq_succ_of_ne_zero (Nat.ne_of_gt (Nat.zero_lt_of_lt hfuel))
      have hnew : got.lookup e.name = none := by
        rw [List.lookup_eq_none_iff]
        intro q hq
        have hne := (List.nodup_append.1 hnodup).2.2 q.1 (List.mem_map_of_mem hq) e.name (List.mem_cons_self ..)
        simpa using hne.symm
      have hchars : ending .object (p :: ps) ++ rest = divider false ++ (p.chars ++ (ending .object ps ++ rest)) := by
        simp [ending, divider]
      have hrest := ih fuel (by omega) (got ++ [e.named]) (by simpa [Entry.named] using hnodup) hp.isIn.after
      rw [hchars, members_part hp strict false fuel got hnew hgap (Raw.stops_ending .object ps rest), hrest]
      simp

theorem length_lt_ending (frame : Frame) (ps : List Part) : ps.length < (ending frame ps).length := by
  induction ps with
  | nil => simp [ending]
  | cons p ps ih =>
      simp only [ending, List.flatMap_cons, List.length_append, List.length_cons] at ih ⊢
      omega

theorem members_encloses {cs : List Char} (h : Encloses .object cs ps) (hps : List.Forall₂ (Shows slots) ps es)
    (strict : Bool) (hnodup : (es.map Entry.name).Nodup) : ∃ inside, cs = '\x7b' :: inside ∧
      members slots strict (inside.length + 1) true [] inside = .ok (es.map Entry.named, ['\x7d']) := by
  cases h with
  | empty gap hgap =>
      cases hps with
      | nil =>
          have hclose : nextName true (gap ++ ending .object []) = .ok (none, ['\x7d']) := by
            rw [nextName, skipSpace_blank hgap]
            rfl
          refine ⟨_, rfl, ?_⟩
          rw [members, hclose]
          rfl
  | parts p ps _ =>
      cases hps with
      | @cons _ e _ es hp hps =>
          have hlength := length_lt_ending .object ps
          rw [hps.length_eq] at hlength
          have hfuel : es.length < (p.chars ++ ending .object ps).length := by
            rw [List.length_append]
            omega
          have hfirst := members_part hp strict true (p.chars ++ ending .object ps).length [] rfl .nil
            (Raw.stops_ending .object ps [])
          have hrest := members_ending hps strict _ hfuel [e.named] (by simpa [Entry.named] using hnodup)
            hp.isIn.after []
          rw [List.append_nil] at hfirst hrest
          rw [divider, if_pos rfl, List.nil_append, List.nil_append, List.nil_append, hrest] at hfirst
          exact ⟨p.chars ++ ending .object ps, rfl, hfirst⟩

theorem record_encloses {cs : List Char} (h : Encloses .object cs ps) (hps : List.Forall₂ (Shows slots) ps es)
    (expected full : String) (strict : Bool) {build : List β → Except Mismatch α} {bs : List β} {a : α}
    (hnodup : (es.map Entry.name).Nodup) (horder : inOrder (es.map Entry.named) slots = .ok bs)
    (hbuild : build bs = .ok a) : record expected full strict slots build cs = .ok (a, []) := by
  obtain ⟨inside, rfl, hmembers⟩ := members_encloses h hps strict hnodup
  rw [record, skipSpace_cons rfl]
  simp only [hmembers, bind, Except.bind, horder, built, hbuild]
  rfl

end Outbox.Json

import Outbox.Json.Content
import Outbox.Proofs.Json.Number
import Outbox.Proofs.Json.Strings
import Outbox.Proofs.Time.Text
import Outbox.Proofs.Uuid

namespace Outbox.Json

variable {α β κ : Type}

def Reads (r : Reader α) (v : Json) (a : α) : Prop :=
  ∀ c rest, c = ',' ∨ c = '\x7d' → r (v.render.toList ++ c :: rest) = .ok (a, c :: rest)

def IsBlank (cs : List Char) : Prop := ∀ c ∈ cs, isSpace c = true

theorem IsBlank.nil : IsBlank [] := by simp [IsBlank]

theorem skipSpace_blank {gap : List Char} (h : IsBlank gap) (cs : List Char) : skipSpace (gap ++ cs) = skipSpace cs :=
  List.dropWhile_append_of_pos h

theorem skipSpace_cons {c : Char} (h : isSpace c = false) (cs : List Char) : skipSpace (c :: cs) = c :: cs := by
  simp [skipSpace, h]

theorem not_space_of_isDigit {c : Char} (h : c.isDigit = true) : isSpace c = false := by
  have hne (x : Char) (hx : x.isDigit = false) : c ≠ x := by
    rintro rfl
    rw [h] at hx
    cases hx
  simp [isSpace, hne ' ' rfl, hne '\n' rfl, hne '\t' rfl, hne '\r' rfl]

theorem textual_quote {expected s : String} {decode : String → Except Mismatch α} {a : α} (h : decode s = .ok a)
    (rest : List Char) : textual expected decode ((quote s).toList ++ rest) = .ok (a, rest) := by
  rw [toList_quote, List.cons_append, textual, skipSpace_cons rfl]
  simp [stringBody_escapes, bind, Except.bind, h, pure, Except.pure]

theorem natural_natText (expected : String) {bound n : Nat} (h : n < bound) (hfits : n < Number.significandLimit)
    {rest : List Char} (hrest : Number.Stops rest) :
    natural bound expected ((Text.natText n).toList ++ rest) = .ok (n, rest) := by
  have hread := Number.read_natText hfits hrest
  obtain ⟨d, ds, hds, hd⟩ := Text.natText_cons n
  rw [hds, List.cons_append] at hread ⊢
  rw [natural, skipSpace_cons (not_space_of_isDigit hd)]
  simp [hd, hread, bind, Except.bind, h, pure, Except.pure]

/-- A reader reads a value from its text, whatever blanks are ahead of it and whatever follows, as long as no number
goes on there. -/
def ReadsSpaced (r : Reader α) (v : Json) (a : α) : Prop :=
  ∀ gap rest, IsBlank gap → Number.Stops rest → r (gap ++ (v.render.toList ++ rest)) = .ok (a, rest)

theorem ReadsSpaced.reads {r : Reader α} {v : Json} {a : α} (h : ReadsSpaced r v a) : Reads r v a := by
  intro c rest hc
  refine h [] (c :: rest) .nil ?_
  rintro d ⟨⟩
  rcases hc with rfl | rfl <;> decide

theorem ReadsSpaced.map {r : Reader α} {v : Json} {a : α} (h : ReadsSpaced r v a) (f : α → β) :
    ReadsSpaced (fun cs => (r cs).map fun (a, rest) => (f a, rest)) v (f a) := by
  intro gap rest hgap hrest
  simp only [h gap rest hgap hrest, Except.map]

theorem readsSpaced_textual {expected s : String} {decode : String → Except Mismatch α} {a : α}
    (h : decode s = .ok a) : ReadsSpaced (textual expected decode) (.text s) a := by
  intro gap rest hgap _
  have hskip (cs : List Char) : textual expected decode (gap ++ cs) = textual expected decode cs := by
    rw [textual, textual, skipSpace_blank hgap]
  rw [render, hskip, textual_quote h]

theorem readsSpaced_string (s : String) : ReadsSpaced string (.text s) s := readsSpaced_textual rfl

theorem readsSpaced_uuid (u : Uuid) : ReadsSpaced uuid (.text u.text) u :=
  readsSpaced_textual (by rw [Uuid.read_text]; rfl)

theorem readsSpaced_time (t : Time) : ReadsSpaced time (.text t.text) t :=
  readsSpaced_textual (by rw [Time.read_text]; rfl)

theorem readsSpaced_variant {names : List (String × α)} {name : String} {a : α} (h : names.lookup name = some a) :
    ReadsSpaced (variant names) (.text name) a :=
  readsSpaced_textual (by rw [h])

theorem readsSpaced_natural (expected : String) {bound n : Nat} (h : n < bound) (hfits : n < Number.significandLimit) :
    ReadsSpaced (natural bound expected) (.number n) n := by
  intro gap rest hgap hrest
  have hskip (cs : List Char) : natural bound expected (gap ++ cs) = natural bound expected cs := by
    rw [natural, natural, skipSpace_blank hgap]
  rw [render, hskip, natural_natText expected h hfits hrest]

theorem readsSpaced_word32 (n : UInt32) : ReadsSpaced word32 (.number n.toNat) n := by
  have hbound := n.toNat_lt
  have hread := (readsSpaced_natural "u32" hbound (Nat.lt_trans hbound (by decide))).map UInt32.ofNat
  rwa [UInt32.ofNat_toNat] at hread

theorem optional_cons (r : Reader α) {c : Char} (hspace : isSpace c = false) (hc : c ≠ 'n') (cs : List Char) :
    optional r (c :: cs) = (r (c :: cs)).map fun (a, rest) => (some a, rest) := by
  rw [optional, skipSpace_cons hspace]
  split
  · rename_i heq
    exact absurd (List.cons.inj heq).1 hc
  · rfl

/-- A text is never taken for `null`, whatever is in it. -/
theorem readsSpaced_optional {r : Reader α} {f : α → String} (h : ∀ a, ReadsSpaced r (.text (f a)) a)
    (a? : Option α) : ReadsSpaced (optional r) (.ofOption (fun a => .text (f a)) a?) a? := by
  intro gap rest hgap hrest
  have hskip (cs : List Char) : optional r (gap ++ cs) = optional r cs := by
    rw [optional, optional, skipSpace_blank hgap]
  rw [hskip]
  cases a? with
  | none =>
      rw [ofOption, render]
      rfl
  | some a =>
      have hread := h a [] rest .nil hrest
      rw [List.nil_append, render, toList_quote, List.cons_append] at hread
      rw [ofOption, render, toList_quote, List.cons_append, optional_cons r rfl (by decide), hread]
      rfl

def memberChars : Bool → List (String × Json) → List Char
  | _, [] => []
  | isFirst, (name, v) :: ms =>
    (if isFirst then [] else [',']) ++ ((quote name).toList ++ ':' :: (v.render.toList ++ memberChars false ms))

theorem toList_renderMembers (ms : List (String × Json)) : (renderMembers ms).toList = memberChars true ms := by
  induction ms with
  | nil => rfl
  | cons m ms ih =>
      obtain ⟨name, v⟩ := m
      cases ms with
      | nil => simp [renderMembers, memberChars]
      | cons m ms =>
          rw [renderMembers, String.toList_append, ih]
          · simp [memberChars]
          · simp

theorem length_le_memberChars (isFirst : Bool) (ms : List (String × Json)) :
    ms.length ≤ (memberChars isFirst ms).length := by
  induction ms generalizing isFirst with
  | nil => simp
  | cons m ms ih =>
      obtain ⟨name, v⟩ := m
      have h := ih false
      simp [memberChars]
      omega

theorem nextName_member (isFirst : Bool) (name : String) (v : Json) (ms : List (String × Json)) (rest : List Char) :
    nextName isFirst (memberChars isFirst ((name, v) :: ms) ++ rest) =
      .ok (some name, ':' :: (v.render.toList ++ (memberChars false ms ++ rest))) := by
  cases isFirst with
  | true =>
      simp only [memberChars, toList_quote]
      simp [nextName, skipSpace_cons, isSpace, stringBody_escapes, Except.map]
  | false =>
      simp only [memberChars, toList_quote]
      simp [nextName, skipSpace_cons, isSpace, stringBody_escapes, Except.map]

theorem nextName_close (isFirst : Bool) (rest : List Char) :
    nextName isFirst ('\x7d' :: rest) = .ok (none, '\x7d' :: rest) := rfl

theorem colon_cons (rest : List Char) : colon (':' :: rest) = .ok rest := rfl

theorem memberChars_closes (ms : List (String × Json)) (rest : List Char) :
    ∃ c rest', memberChars false ms ++ '\x7d' :: rest = c :: rest' ∧ (c = ',' ∨ c = '\x7d') := by
  cases ms with
  | nil => exact ⟨_, _, rfl, .inr rfl⟩
  | cons m ms => exact ⟨_, _, rfl, .inl rfl⟩

/-- One of the fields is for a member, and reads its value. -/
def Slotted (fields : List (Slot β)) (m : String × Json) (b : β) : Prop :=
  ∃ field, fields.find? (·.name == m.1) = some field ∧ Reads field.read m.2 b

theorem members_render {fields : List (Slot β)} {ms : List (String × Json)} {bs : List β}
    (hms : List.Forall₂ (Slotted fields) ms bs) (strict isFirst : Bool) (fuel : Nat) (hfuel : ms.length < fuel)
    (got : List (String × β)) (hnodup : (got.map (·.1) ++ ms.map (·.1)).Nodup) (rest : List Char) :
    members fields strict fuel isFirst got (memberChars isFirst ms ++ '\x7d' :: rest) =
      .ok (got ++ (ms.map (·.1)).zip bs, '\x7d' :: rest) := by
  induction hms generalizing isFirst fuel got with
  | nil =>
      obtain ⟨fuel, rfl⟩ := Nat.exists_eq_succ_of_ne_zero (Nat.ne_of_gt hfuel)
      simp [members, memberChars, nextName_close]
  | @cons m b ms bs hm _ ih =>
      obtain ⟨name, v⟩ := m
      obtain ⟨field, hfield, hreads⟩ := hm
      obtain ⟨fuel, rfl⟩ := Nat.exists_eq_succ_of_ne_zero (Nat.ne_of_gt (Nat.lt_of_le_of_lt (Nat.zero_le _) hfuel))
      obtain ⟨c, rest', hrest, hc⟩ := memberChars_closes ms rest
      have hnone : got.lookup name = none := by
        rw [List.lookup_eq_none_iff]
        intro p hp
        have hne := (List.nodup_append.1 hnodup).2.2 p.1 (List.mem_map_of_mem hp) name (List.mem_cons_self ..)
        simpa using hne.symm
      have hnext := ih false fuel (by simpa using hfuel) (got ++ [(name, b)]) (by simpa using hnodup)
      rw [hrest] at hnext
      simp only [members, nextName_member, hrest, hfield, hnone, Option.isSome_none, colon_cons, hreads c rest' hc]
      rw [if_neg (by decide), hnext]
      simp

theorem toList_render_object (ms : List (String × Json)) (rest : List Char) :
    (Json.object ms).render.toList ++ rest = '\x7b' :: (memberChars true ms ++ '\x7d' :: rest) := by
  simp [render, toList_renderMembers]

theorem record_render {fields : List (Slot β)} {ms : List (String × Json)} {bs bs' : List β}
    {build : List β → Except Mismatch α} {a : α} (expected full : String) (strict : Bool)
    (hms : List.Forall₂ (Slotted fields) ms bs) (hnodup : (ms.map (·.1)).Nodup)
    (horder : inOrder ((ms.map (·.1)).zip bs) fields = .ok bs') (hbuild : build bs' = .ok a) (rest : List Char) :
    record expected full strict fields build ((Json.object ms).render.toList ++ rest) = .ok (a, rest) := by
  have hlength := length_le_memberChars true ms
  have hmembers := members_render hms strict true ((memberChars true ms ++ '\x7d' :: rest).length + 1)
    (by rw [List.length_append]; omega) [] (by simpa using hnodup) rest
  rw [List.nil_append] at hmembers
  rw [toList_render_object, record, skipSpace_cons rfl]
  simp only [hmembers, bind, Except.bind, horder, built, hbuild]
  rfl

theorem readAll_eq_ok {read : Reader α} {s : String} {a : α} (h : read s.toList = .ok (a, [])) :
    readAll read s = .ok a := by
  simp [readAll, h, skipSpace]

end Outbox.Json

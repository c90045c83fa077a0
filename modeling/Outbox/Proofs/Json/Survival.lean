import Mathlib.Data.List.Nodup
import Outbox.Proofs.Json.Object

namespace Outbox.Json

variable {α β : Type} {r : Reader α} {v : Json} {slots : List (Slot β)} {p : Part} {ps : List Part}
  {e : Entry β} {es : List (Entry β)}

/-- Some of the members of an object, in their order. All that are left out are null. -/
structure OmitsNulls (kept members : List (String × String)) : Prop where
  sublist : kept.Sublist members
  null : ∀ m ∈ members, m ∉ kept → m.2 = "null"

theorem OmitsNulls.refl (members : List (String × String)) : OmitsNulls members members :=
  ⟨List.Sublist.refl members, fun _ hm hkept => absurd hm hkept⟩

theorem omitsNulls_filter (members : List (String × String)) : OmitsNulls (members.filter (·.2 ≠ "null")) members :=
  ⟨List.filter_sublist, fun m hm hkept => by simpa [hm] using hkept⟩

/-- A text is read as a value, and so is every text of an object that has the same members, whatever blanks are in it
and whichever of those that are null it leaves out. -/
structure Survives (parse : String → Except Error α) (text : String) (a : α) : Prop where
  read : parse text = .ok a
  members : ∃ ms, IsObject text ms ∧ ∀ kept other, OmitsNulls kept ms → IsObject other kept → parse other = .ok a

theorem Survives.eq_of_text {parse : String → Except Error α} {s t : String} {a b : α} (ha : Survives parse s a)
    (hb : Survives parse t b) (h : s = t) : a = b := by
  have hread := ha.read
  rw [h, hb.read] at hread
  exact (Except.ok.inj hread).symm

/-- A slot is for a member and reads its value, and stands for the same if the member is null and is left out. -/
structure Fits (slot : Slot β) (e : Entry β) : Prop where
  name_eq : slot.name = e.name
  reads : ReadsSpaced slot.read e.json e.value
  isValue : IsValue e.json.render.toList
  absent : e.json.render = "null" → slot.absent = some e.value

theorem Own.render_ne_null (h : Own v) (hv : v ≠ .null) : v.render ≠ "null" := by
  intro hrender
  have hhead := congrArg (fun s => s.toList.head?) hrender
  cases h with
  | null => exact hv rfl
  | flag b => cases b <;> exact absurd hhead (by decide)
  | number n =>
      obtain ⟨d, ds, hds, hd⟩ := Text.natText_cons n
      simp only [render, hds, List.head?_cons] at hhead
      cases hhead
      exact absurd hd (by decide)
  | text s =>
      simp only [render, toList_quote, List.head?_cons] at hhead
      exact absurd hhead (by decide)
  | object ms _ =>
      have hbrace := toList_render_object ms []
      rw [List.append_nil] at hbrace
      simp only [hbrace, List.head?_cons] at hhead
      exact absurd hhead (by decide)

theorem fits_required (name : String) {a : α} (f : α → β) (h : Own v) (hv : v ≠ .null) (hreads : ReadsSpaced r v a) :
    Fits (.required name fun cs => (r cs).map fun (a, rest) => (f a, rest)) ⟨name, v, f a⟩ :=
  ⟨rfl, hreads.map f, h.isValue, fun hnull => absurd hnull (h.render_ne_null hv)⟩

theorem fits_nullable (name : String) {r : Reader β} (f : α → String) (g : Option α → β) (a? : Option α)
    (hreads : ReadsSpaced r (.ofOption (fun a => .text (f a)) a?) (g a?)) :
    Fits (.nullable name r (g none)) ⟨name, .ofOption (fun a => .text (f a)) a?, g a?⟩ := by
  cases a? with
  | none => exact ⟨rfl, hreads, Own.null.isValue, fun _ => rfl⟩
  | some a =>
      have hown : Own (.text (f a)) := .text (f a)
      exact ⟨rfl, hreads, hown.isValue, fun hnull => absurd hnull (hown.render_ne_null (by simp))⟩

theorem quote_injective : Function.Injective quote := by
  intro s t h
  have hs := stringBody_escapes s []
  have htail := congrArg String.toList h
  rw [toList_quote, toList_quote, List.cons.injEq] at htail
  rw [htail.2, stringBody_escapes] at hs
  cases hs
  rfl

theorem exists_slot (h : List.Forall₂ Fits slots es) (hnodup : (es.map Entry.name).Nodup) (he : e ∈ es) :
    ∃ slot, slots.find? (·.name == e.name) = some slot ∧ Fits slot e := by
  induction h with
  | nil => cases he
  | @cons slot f slots es hf _ ih =>
      obtain ⟨hnew, hnodup⟩ := List.nodup_cons.1 hnodup
      rcases List.mem_cons.1 he with rfl | he
      · exact ⟨slot, List.find?_cons_of_pos (by simp [hf.name_eq]), hf⟩
      · obtain ⟨found, hfound, hfits⟩ := ih hnodup he
        have hne : slot.name ≠ e.name := by
          rintro hname
          rw [← hf.name_eq, hname] at hnew
          exact hnew (List.mem_map_of_mem he)
        exact ⟨found, by rw [List.find?_cons_of_neg (by simpa using hne), hfound], hfits⟩

theorem lookup_named (hnodup : (es.map Entry.name).Nodup) (he : e ∈ es) :
    (es.map Entry.named).lookup e.name = some e.value := by
  obtain ⟨before, after, rfl⟩ := List.append_of_mem he
  rw [List.map_append, List.map_cons] at hnodup
  refine List.lookup_eq_some_iff.2 ⟨before.map Entry.named, after.map Entry.named, by simp [Entry.named], ?_⟩
  intro q hq
  obtain ⟨f, hf, rfl⟩ := List.mem_map.1 hq
  have hne := (List.nodup_append.1 hnodup).2.2 f.name (List.mem_map_of_mem hf) e.name (List.mem_cons_self ..)
  simpa [Entry.named] using hne.symm

theorem inOrder_eq_ok {got : List (String × β)} (h : List.Forall₂ (fun slot e =>
    ((got.lookup slot.name).orElse fun _ => slot.absent) = some e.value) slots es) :
    inOrder got slots = .ok (es.map Entry.value) := by
  induction h with
  | nil => rfl
  | cons h _ ih =>
      rw [inOrder, h]
      simp only [ih]
      rfl

theorem inOrder_kept (h : List.Forall₂ Fits slots es) (hnodup : (es.map Entry.name).Nodup) {ks : List (Entry β)}
    (hks : ks.Sublist es) (hnull : ∀ e ∈ es, e ∉ ks → e.json.render = "null") :
    inOrder (ks.map Entry.named) slots = .ok (es.map Entry.value) := by
  obtain ⟨hlength, hfits⟩ := List.forall₂_iff_zip.1 h
  refine inOrder_eq_ok (List.forall₂_iff_zip.2 ⟨hlength, fun {slot e} hzip => ?_⟩)
  have hfit := hfits hzip
  have he := (List.of_mem_zip hzip).2
  rw [hfit.name_eq]
  by_cases hkept : e ∈ ks
  · rw [lookup_named (hnodup.sublist (hks.map Entry.name)) hkept]
    rfl
  · have hnone : (ks.map Entry.named).lookup e.name = none := by
      rw [List.lookup_eq_none_iff]
      intro q hq
      obtain ⟨k, hk, rfl⟩ := List.mem_map.1 hq
      have hne : e.name ≠ k.name := by
        intro hname
        rw [List.inj_on_of_nodup_map hnodup he (hks.subset hk) hname] at hkept
        exact hkept hk
      simpa [Entry.named] using hne
    rw [hnone, Option.orElse_none, hfit.absent (hnull e he hkept)]

theorem Encloses.isIn {frame : Frame} {cs : List Char} (h : Encloses frame cs ps) (hp : p ∈ ps) : p.IsIn frame := by
  cases h with
  | empty gap _ => cases hp
  | parts q ps hps => exact hps p hp

theorem exists_parts {s : String} {ks : List (Entry β)} (h : IsObject s (ks.map Entry.written))
    (hks : ∀ e ∈ ks, ∃ slot, slots.find? (·.name == e.name) = some slot ∧ Fits slot e) :
    ∃ ps, Encloses .object s.toList ps ∧ List.Forall₂ (Shows slots) ps ks := by
  obtain ⟨ps, hencloses, -, hsame⟩ := h
  rw [← List.forall₂_eq_eq_eq, List.forall₂_map_left_iff, List.forall₂_map_right_iff] at hsame
  obtain ⟨hlength, hsame⟩ := List.forall₂_iff_zip.1 hsame.flip
  refine ⟨ps, hencloses, List.forall₂_iff_zip.2 ⟨hlength, fun {p e} hzip => ?_⟩⟩
  obtain ⟨hp, he⟩ := List.of_mem_zip hzip
  obtain ⟨hname, hvalue⟩ := Prod.mk.inj (hsame hzip)
  obtain ⟨slot, hslot, hfits⟩ := hks e he
  refine ⟨hencloses.isIn hp, ?_, ?_, slot, hslot, hfits.reads⟩
  · rw [hname, String.toList_ofList]
  · rw [hvalue, String.toList_ofList]

theorem isValue_of_fits (h : List.Forall₂ Fits slots es) : ∀ e ∈ es, IsValue e.json.render.toList := by
  intro e he
  obtain ⟨i, hi, rfl⟩ := List.getElem_of_mem he
  exact (h.get (h.length_eq.symm ▸ hi) hi).isValue

theorem isObject_members (h : ∀ e ∈ es, IsValue e.json.render.toList) :
    IsObject (Json.object (es.map Entry.member)).render (es.map Entry.written) := by
  have hobject := isObject_render (es.map Entry.member) (by simpa [Entry.member] using h)
  rwa [List.map_map] at hobject

theorem survives_record (h : List.Forall₂ Fits slots es) (hnodup : (es.map Entry.name).Nodup)
    {build : List β → Except Mismatch α} {a : α} (hbuild : build (es.map Entry.value) = .ok a)
    (expected full : String) (strict : Bool) :
    Survives (readAll (record expected full strict slots build)) (Json.object (es.map Entry.member)).render a := by
  have hobject := isObject_members (isValue_of_fits h)
  have hother (kept : List (String × String)) (other : String) (hkept : OmitsNulls kept (es.map Entry.written))
      (hother : IsObject other kept) : readAll (record expected full strict slots build) other = .ok a := by
    obtain ⟨ks, hks, rfl⟩ := List.sublist_map_iff.1 hkept.sublist
    have hnull (e : Entry β) (he : e ∈ es) (hk : e ∉ ks) : e.json.render = "null" := by
      refine hkept.null e.written (List.mem_map_of_mem he) fun hwritten => ?_
      obtain ⟨k, hmem, hsame⟩ := List.mem_map.1 hwritten
      have hname := quote_injective (Prod.mk.inj hsame).1
      exact hk (List.inj_on_of_nodup_map hnodup (hks.subset hmem) he hname ▸ hmem)
    obtain ⟨ps, hencloses, hps⟩ := exists_parts hother fun e he => exists_slot h hnodup (hks.subset he)
    exact readAll_eq_ok (record_encloses hencloses hps expected full strict (hnodup.sublist (hks.map Entry.name))
      (inOrder_kept h hnodup hks hnull) hbuild)
  exact ⟨hother _ _ (.refl _) hobject, _, hobject, hother⟩

end Outbox.Json

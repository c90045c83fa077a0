import Outbox.Json.Raw
import Outbox.Proofs.Json.Reader

namespace Outbox.Json

def IsDigits (cs : List Char) : Prop := cs ≠ [] ∧ ∀ c ∈ cs, c.isDigit = true

def IsSign (signs : List Char) (cs : List Char) : Prop := cs = [] ∨ ∃ sign ∈ signs, cs = [sign]

def IsWhole (cs : List Char) : Prop := cs = ['0'] ∨ IsDigits cs ∧ cs.head? ≠ some '0'

def IsFraction (cs : List Char) : Prop := cs = [] ∨ ∃ ds, IsDigits ds ∧ cs = '.' :: ds

def IsExponent (cs : List Char) : Prop :=
  cs = [] ∨ ∃ mark ∈ ['e', 'E'], ∃ sign ds, IsSign ['+', '-'] sign ∧ IsDigits ds ∧ cs = mark :: (sign ++ ds)

def IsUnsigned (cs : List Char) : Prop :=
  ∃ whole fraction exponent, IsWhole whole ∧ IsFraction fraction ∧ IsExponent exponent ∧
    cs = whole ++ (fraction ++ exponent)

def IsNumber (cs : List Char) : Prop := ∃ sign digits, IsSign ['-'] sign ∧ IsUnsigned digits ∧ cs = sign ++ digits

inductive IsInner : List Char → Prop
  | nil : IsInner []
  | plain (c : Char) (cs : List Char) (hquote : c ≠ '"') (hslash : c ≠ '\\') (hcontrol : 0x20 ≤ c.toNat)
      (h : IsInner cs) : IsInner (c :: cs)
  | escape (c : Char) (cs : List Char) (hc : c ∈ ['"', '\\', '/', 'b', 'f', 'n', 'r', 't']) (h : IsInner cs) :
      IsInner ('\\' :: c :: cs)
  | code (a b c d : Char) (cs : List Char) (hhex : (Text.hexNumber? [a, b, c, d]).isSome = true) (h : IsInner cs) :
      IsInner ('\\' :: 'u' :: a :: b :: c :: d :: cs)

def IsString (cs : List Char) : Prop := ∃ inner, IsInner inner ∧ cs = '"' :: (inner ++ ['"'])

/-- A value between brackets with all that stands around it there: its label and blanks on both sides. -/
structure Part where
  name : List Char
  label : List Char
  before : List Char
  value : List Char
  after : List Char

namespace Part

def chars (p : Part) : List Char := p.label ++ (p.before ++ (p.value ++ p.after))

/-- A name between blanks and a colon are ahead of a value in an object, and nothing is in a list. -/
inductive Labels : Frame → List Char → List Char → Prop
  | list : Labels .list [] []
  | object (before name after : List Char) (hbefore : IsBlank before) (hname : IsString name) (hafter : IsBlank after) :
      Labels .object name (before ++ (name ++ (after ++ [':'])))

structure IsIn (p : Part) (frame : Frame) : Prop where
  label : Labels frame p.name p.label
  before : IsBlank p.before
  after : IsBlank p.after

end Part

def opener : Frame → Char
  | .list => '['
  | .object => '\x7b'

def ending (frame : Frame) (ps : List Part) : List Char := ps.flatMap (',' :: ·.chars) ++ [Raw.Frame.closer frame]

inductive Encloses (frame : Frame) : List Char → List Part → Prop
  | empty (gap : List Char) (h : IsBlank gap) : Encloses frame (opener frame :: (gap ++ ending frame [])) []
  | parts (p : Part) (ps : List Part) (h : ∀ q ∈ p :: ps, q.IsIn frame) :
      Encloses frame (opener frame :: (p.chars ++ ending frame ps)) (p :: ps)

/-- The text of one value, with no blanks around it. -/
inductive IsValue : List Char → Prop
  | word (cs : List Char) (h : cs ∈ ["null".toList, "true".toList, "false".toList]) : IsValue cs
  | number (cs : List Char) (h : IsNumber cs) : IsValue cs
  | string (cs : List Char) (h : IsString cs) : IsValue cs
  | nested (frame : Frame) (cs : List Char) (ps : List Part) (h : Encloses frame cs ps)
      (hvalues : ∀ p ∈ ps, IsValue p.value) : IsValue cs

/-- The text of an object that has these members in this order, their names and values as they are written. -/
def IsObject (s : String) (members : List (String × String)) : Prop :=
  ∃ ps, Encloses .object s.toList ps ∧ (∀ p ∈ ps, IsValue p.value) ∧
    members = ps.map fun p => (String.ofList p.name, String.ofList p.value)

/-- A text that is one value and, at most, blanks around it. -/
def Holds (s value : String) : Prop :=
  ∃ before after, IsBlank before ∧ IsBlank after ∧ IsValue value.toList ∧ s.toList = before ++ (value.toList ++ after)

theorem IsBlank.append {a b : List Char} (ha : IsBlank a) (hb : IsBlank b) : IsBlank (a ++ b) := by
  intro c hc
  exact (List.mem_append.1 hc).elim (ha c) (hb c)

theorem isUnsigned_head {cs : List Char} (h : IsUnsigned cs) : ∃ c ds, cs = c :: ds ∧ c.isDigit = true := by
  obtain ⟨whole, f, e, hwhole, -, -, rfl⟩ := h
  rcases hwhole with rfl | ⟨⟨hne, hdigits⟩, -⟩
  · exact ⟨'0', _, rfl, rfl⟩
  · obtain ⟨c, ds, rfl⟩ := List.exists_cons_of_ne_nil hne
    exact ⟨c, _, rfl, hdigits c (List.mem_cons_self ..)⟩

theorem IsValue.cons {v : List Char} (h : IsValue v) : ∃ c cs, v = c :: cs ∧ isSpace c = false ∧ c ≠ ']' := by
  have hdigits {ds : List Char} (h : IsUnsigned ds) : ∃ c cs, ds = c :: cs ∧ isSpace c = false ∧ c ≠ ']' := by
    obtain ⟨c, cs, rfl, hc⟩ := isUnsigned_head h
    refine ⟨c, cs, rfl, not_space_of_isDigit hc, ?_⟩
    rintro rfl
    cases hc
  cases h with
  | word _ h =>
      simp only [List.mem_cons, List.not_mem_nil, or_false] at h
      rcases h with rfl | rfl | rfl
      · exact ⟨'n', _, rfl, rfl, by decide⟩
      · exact ⟨'t', _, rfl, rfl, by decide⟩
      · exact ⟨'f', _, rfl, rfl, by decide⟩
  | number _ h =>
      obtain ⟨sign, ds, hsign, hds, rfl⟩ := h
      rcases hsign with rfl | ⟨c, hc, rfl⟩
      · exact hdigits hds
      · rw [List.mem_singleton.1 hc]
        exact ⟨'-', ds, rfl, rfl, by decide⟩
  | string _ h =>
      obtain ⟨inner, -, rfl⟩ := h
      exact ⟨'"', _, rfl, rfl, by decide⟩
  | nested frame _ ps h =>
      have hopener : isSpace (opener frame) = false ∧ opener frame ≠ ']' := by cases frame <;> decide
      cases h with
      | empty gap => exact ⟨opener frame, _, rfl, hopener⟩
      | parts p ps => exact ⟨opener frame, _, rfl, hopener⟩

theorem isInner_escape {cs : List Char} (h : IsInner cs) (c : Char) : IsInner (escape c ++ cs) := by
  unfold escape
  split
  · exact .escape '"' cs (by decide) h
  split
  · exact .escape '\\' cs (by decide) h
  split
  · exact .escape 'b' cs (by decide) h
  split
  · exact .escape 'f' cs (by decide) h
  split
  · exact .escape 'n' cs (by decide) h
  split
  · exact .escape 'r' cs (by decide) h
  split
  · exact .escape 't' cs (by decide) h
  split
  · have hhex := Text.hexNumber?_hexDigits 4 c.toNat
    simp only [Text.hexDigits, List.nil_append, List.cons_append] at hhex ⊢
    exact .code _ _ _ _ cs (by rw [hhex]; rfl) h
  · rename_i hquote hslash _ _ _ _ _ hcontrol
    exact .plain c cs hquote hslash (Nat.le_of_not_lt hcontrol) h

theorem isString_quote (s : String) : IsString (quote s).toList := by
  refine ⟨s.toList.flatMap escape, ?_, toList_quote s⟩
  induction s.toList with
  | nil => exact .nil
  | cons c cs ih => exact isInner_escape ih c

theorem isNumber_natText (n : Nat) : IsNumber (Text.natText n).toList := by
  refine ⟨[], _, .inl rfl, ⟨(Text.natText n).toList, [], [], ?_, .inl rfl, .inl rfl, (List.append_nil _).symm⟩, rfl⟩
  rw [Text.natText, String.toList_ofList]
  rcases Nat.eq_zero_or_pos n with rfl | hn
  · exact .inl (Nat.toDigits_zero 10)
  · obtain ⟨d, ds, hds, hzero⟩ := Number.head_toDigits hn
    refine .inr ⟨⟨by simp [hds], fun c hc => Nat.isDigit_of_mem_toDigits (by decide) (by decide) hc⟩, ?_⟩
    simpa [hds] using hzero

def Part.ofMember (m : String × Json) : Part :=
  ⟨(quote m.1).toList, (quote m.1).toList ++ [':'], [], m.2.render.toList, []⟩

theorem Part.isIn_ofMember (m : String × Json) : (ofMember m).IsIn .object where
  label := by
    have hlabel := Labels.object [] (quote m.1).toList [] .nil (isString_quote m.1) .nil
    rwa [List.nil_append, List.nil_append] at hlabel
  before := .nil
  after := .nil

theorem memberChars_ending (ms : List (String × Json)) :
    memberChars false ms ++ ['\x7d'] = ending .object (ms.map Part.ofMember) := by
  induction ms with
  | nil => rfl
  | cons m ms ih => simpa [memberChars, ending, Part.ofMember, Part.chars] using ih

theorem encloses_render (ms : List (String × Json)) :
    Encloses .object (Json.object ms).render.toList (ms.map Part.ofMember) := by
  have hrender := toList_render_object ms []
  rw [List.append_nil] at hrender
  rw [hrender]
  cases ms with
  | nil => exact .empty [] .nil
  | cons m ms =>
      have hparts : Encloses .object _ _ := .parts (Part.ofMember m) (ms.map Part.ofMember) fun p hp => by
        obtain ⟨m, -, rfl⟩ := List.mem_map.1 (List.map_cons ▸ hp)
        exact Part.isIn_ofMember m
      rw [← memberChars_ending] at hparts
      simpa [memberChars, Part.ofMember, Part.chars, opener] using hparts

theorem isObject_render (ms : List (String × Json)) (h : ∀ m ∈ ms, IsValue m.2.render.toList) :
    IsObject (Json.object ms).render (ms.map fun m => (quote m.1, m.2.render)) := by
  refine ⟨ms.map Part.ofMember, encloses_render ms, ?_, ?_⟩
  · intro p hp
    obtain ⟨m, hm, rfl⟩ := List.mem_map.1 hp
    exact h m hm
  · simp [Part.ofMember]

/-- JSON without text that was written elsewhere. -/
inductive Own : Json → Prop
  | null : Own .null
  | flag (b : Bool) : Own (.flag b)
  | number (n : Nat) : Own (.number n)
  | text (s : String) : Own (.text s)
  | object (ms : List (String × Json)) (h : ∀ m ∈ ms, Own m.2) : Own (.object ms)

theorem Own.isValue {v : Json} (h : Own v) : IsValue v.render.toList := by
  induction h with
  | null => exact .word _ (by decide)
  | flag b => cases b <;> exact .word _ (by decide)
  | number n => exact .number _ (isNumber_natText n)
  | text s => exact .string _ (isString_quote s)
  | object ms _ ih =>
      refine .nested .object _ _ (encloses_render ms) fun p hp => ?_
      obtain ⟨m, hm, rfl⟩ := List.mem_map.1 hp
      exact ih m hm

end Outbox.Json

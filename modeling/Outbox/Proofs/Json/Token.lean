import Outbox.Proofs.Json.Grammar

namespace Outbox.Json

theorem skipSpace_eq_nil {cs : List Char} : skipSpace cs = [] ↔ IsBlank cs := List.dropWhile_eq_nil_iff

theorem blank_skipSpace (cs : List Char) : ∃ gap, IsBlank gap ∧ cs = gap ++ skipSpace cs :=
  ⟨cs.takeWhile isSpace, fun _ hc => List.mem_takeWhile_imp hc, List.takeWhile_append_dropWhile.symm⟩

namespace Raw

theorem string_inner {cs : List Char} (h : IsInner cs) (rest : List Char) : string (cs ++ '"' :: rest) = .ok rest := by
  induction h with
  | nil => rfl
  | plain c cs hquote hslash hcontrol _ ih =>
      rw [List.cons_append, string, if_neg (Nat.not_lt.2 hcontrol), ih]
      · exact hquote
      · rintro rfl
        exact absurd rfl hslash
      · rintro _ _ _ _ _ rfl
        exact absurd rfl hslash
      · rintro _ rfl
        exact absurd rfl hslash
      · rintro _ _ rfl
        exact absurd rfl hslash
  | escape c cs hc _ ih =>
      rw [List.cons_append, List.cons_append, string, if_pos hc, ih]
      · rintro _ _ _ _ _ rfl
        exact absurd hc (by decide)
      · rintro rfl
        exact absurd hc (by decide)
  | code a b c d cs hhex _ ih => simp only [List.cons_append, string, if_pos hhex, ih]

theorem inner_of_string {cs rest : List Char} (h : string cs = .ok rest) :
    ∃ inner, IsInner inner ∧ cs = inner ++ '"' :: rest := by
  fun_induction string cs with
  | case1 => cases h
  | case2 rest => cases h; exact ⟨[], .nil, rfl⟩
  | case3 => cases h
  | case4 a b c d rest hhex ih =>
      obtain ⟨inner, hinner, rfl⟩ := ih h
      exact ⟨_, .code a b c d inner hhex hinner, rfl⟩
  | case5 => cases h
  | case6 => cases h
  | case7 c rest hcode hshort hc ih =>
      obtain ⟨inner, hinner, rfl⟩ := ih h
      exact ⟨_, .escape c inner hc hinner, rfl⟩
  | case8 => cases h
  | case9 => cases h
  | case10 c rest hquote hlone _ _ hslash hcontrol ih =>
      obtain ⟨inner, hinner, rfl⟩ := ih h
      refine ⟨c :: inner, .plain c inner hquote ?_ (Nat.le_of_not_lt hcontrol) hinner, rfl⟩
      intro hc
      obtain ⟨d, ds, hds⟩ := List.exists_cons_of_ne_nil (hlone hc)
      exact hslash d ds hc hds

def EndsDigits (rest : List Char) : Prop := ∀ c ∈ rest.head?, c.isDigit = false

theorem EndsDigits.of_stops {rest : List Char} (h : Number.Stops rest) : EndsDigits rest := fun c hc => (h c hc).1

theorem someDigits_append {ds rest : List Char} (h : IsDigits ds) (hrest : EndsDigits rest) (failure : Failure) :
    someDigits (ds ++ rest) failure = .ok rest := by
  obtain ⟨c, cs, rfl⟩ := List.exists_cons_of_ne_nil h.1
  obtain ⟨hc, hcs⟩ := List.forall_mem_cons.1 h.2
  rw [List.cons_append, someDigits, if_pos hc, digits, List.dropWhile_append_of_pos hcs]
  cases rest with
  | nil => rfl
  | cons d rest => rw [List.dropWhile_cons_of_neg (by simp [hrest d rfl])]

theorem digits_of_someDigits {cs rest : List Char} {failure : Failure} (h : someDigits cs failure = .ok rest) :
    ∃ ds, IsDigits ds ∧ cs = ds ++ rest := by
  cases cs with
  | nil => cases h
  | cons c cs =>
      rw [someDigits] at h
      split at h
      · rename_i hc
        cases h
        refine ⟨c :: cs.takeWhile Char.isDigit, ⟨by simp, ?_⟩, ?_⟩
        · exact List.forall_mem_cons.2 ⟨hc, fun _ hd => List.mem_takeWhile_imp hd⟩
        · rw [List.cons_append, digits, List.takeWhile_append_dropWhile]
      · cases h

theorem isDigits_head {ds : List Char} (h : IsDigits ds) : ∃ c cs, ds = c :: cs ∧ c ≠ '+' ∧ c ≠ '-' := by
  obtain ⟨c, cs, rfl⟩ := List.exists_cons_of_ne_nil h.1
  have hc := h.2 c (List.mem_cons_self ..)
  refine ⟨c, cs, rfl, ?_, ?_⟩
  · rintro rfl
    exact absurd hc (by decide)
  · rintro rfl
    exact absurd hc (by decide)

theorem exponent_append {cs rest : List Char} (h : IsExponent cs) (hrest : Number.Stops rest) :
    exponent (cs ++ rest) = .ok rest := by
  rcases h with rfl | ⟨mark, hmark, sign, ds, hsign, hds, rfl⟩
  · rw [List.nil_append]
    cases rest with
    | nil => rfl
    | cons c rest => simp [exponent, (hrest c rfl).2.2]
  · have hmark' : mark = 'e' ∨ mark = 'E' := by simpa using hmark
    have hdigits (failure : Failure) := someDigits_append hds (.of_stops hrest) failure
    rcases hsign with rfl | ⟨c, hc, rfl⟩
    · obtain ⟨c, cs, rfl, hplus, hminus⟩ := isDigits_head hds
      rw [List.nil_append, List.cons_append, exponent, if_pos hmark']
      · exact hdigits _
      · rintro _ ⟨⟩
        exact hplus rfl
      · rintro _ ⟨⟩
        exact hminus rfl
    · have hc' : c = '+' ∨ c = '-' := by simpa using hc
      rcases hc' with rfl | rfl
      · rw [List.cons_append, List.append_assoc, List.singleton_append, exponent, if_pos hmark']
        exact hdigits _
      · rw [List.cons_append, List.append_assoc, List.singleton_append, exponent, if_pos hmark']
        exact hdigits _

theorem exponent_of_ok {cs rest : List Char} (h : exponent cs = .ok rest) : ∃ e, IsExponent e ∧ cs = e ++ rest := by
  have hmarked (sign : List Char) (c : Char) (hc : c = 'e' ∨ c = 'E') {digits : List Char} {failure : Failure}
      (hsign : IsSign ['+', '-'] sign) (hread : someDigits digits failure = .ok rest) :
      ∃ e, IsExponent e ∧ c :: (sign ++ digits) = e ++ rest := by
    obtain ⟨ds, hds, rfl⟩ := digits_of_someDigits hread
    exact ⟨_, .inr ⟨c, by simpa using hc, sign, ds, hsign, hds, rfl⟩, by simp⟩
  unfold exponent at h
  split at h
  · rename_i c digits
    split at h
    · rename_i hc
      dsimp only at h
      split at h
      · exact hmarked ['+'] c hc (.inr ⟨_, by simp, rfl⟩) h
      · exact hmarked ['-'] c hc (.inr ⟨_, by simp, rfl⟩) h
      · exact hmarked [] c hc (.inl rfl) h
    · cases h
      exact ⟨[], .inl rfl, rfl⟩
  · cases h
    exact ⟨[], .inl rfl, rfl⟩

theorem exponent_head {e rest : List Char} (h : IsExponent e) (hrest : Number.Stops rest) :
    ∀ c ∈ (e ++ rest).head?, c.isDigit = false ∧ c ≠ '.' := by
  rcases h with rfl | ⟨mark, hmark, sign, ds, -, -, rfl⟩
  · exact fun c hc => ⟨(hrest c hc).1, (hrest c hc).2.1⟩
  · rintro c ⟨⟩
    have hmark' : mark = 'e' ∨ mark = 'E' := by simpa using hmark
    rcases hmark' with rfl | rfl <;> decide

theorem fraction_append {f e rest : List Char} (h : IsFraction f) (he : IsExponent e) (hrest : Number.Stops rest) :
    fraction (f ++ (e ++ rest)) = .ok rest := by
  have hexponent := exponent_append he hrest
  have hhead := exponent_head he hrest
  rcases h with rfl | ⟨ds, hds, rfl⟩
  · rw [List.nil_append, fraction, hexponent]
    intro rest' hpoint
    rw [hpoint] at hhead
    exact (hhead '.' rfl).2 rfl
  · have hends : EndsDigits (e ++ rest) := fun c hc => (hhead c hc).1
    simp only [List.cons_append, fraction, someDigits_append hds hends, bind, Except.bind, hexponent]

theorem fraction_of_ok {cs rest : List Char} (h : fraction cs = .ok rest) :
    ∃ f e, IsFraction f ∧ IsExponent e ∧ cs = f ++ (e ++ rest) := by
  unfold fraction at h
  split at h
  · rename_i cs
    cases hread : someDigits cs (.next .number cs) with
    | error failure => rw [hread] at h; cases h
    | ok rest' =>
        rw [hread] at h
        obtain ⟨ds, hds, rfl⟩ := digits_of_someDigits hread
        obtain ⟨e, he, rfl⟩ := exponent_of_ok h
        exact ⟨'.' :: ds, e, .inr ⟨ds, hds, rfl⟩, he, rfl⟩
  · obtain ⟨e, he, rfl⟩ := exponent_of_ok h
    exact ⟨[], e, .inl rfl, he, rfl⟩

theorem fraction_head {f e rest : List Char} (h : IsFraction f) (he : IsExponent e) (hrest : Number.Stops rest) :
    EndsDigits (f ++ (e ++ rest)) := by
  rcases h with rfl | ⟨ds, -, rfl⟩
  · exact fun c hc => (exponent_head he hrest c hc).1
  · rintro c ⟨⟩
    decide

theorem unsigned_append {cs rest : List Char} (h : IsUnsigned cs) (hrest : Number.Stops rest) :
    unsigned (cs ++ rest) = .ok rest := by
  obtain ⟨whole, f, e, hwhole, hf, he, rfl⟩ := h
  have hread := fraction_append hf he hrest
  have hhead := fraction_head hf he hrest
  rw [List.append_assoc, List.append_assoc]
  rcases hwhole with rfl | ⟨hds, hzero⟩
  · cases hcs : f ++ (e ++ rest) with
    | nil =>
        rw [List.append_eq_nil_iff, List.append_eq_nil_iff] at hcs
        rw [hcs.2.2]
        rfl
    | cons c cs =>
        rw [hcs] at hread hhead
        rw [List.singleton_append, unsigned, if_neg (by simp [hhead c rfl]), hread]
  · obtain ⟨c, ds, rfl⟩ := List.exists_cons_of_ne_nil hds.1
    obtain ⟨hc, hrestdigits⟩ := List.forall_mem_cons.1 hds.2
    have hc0 : c ≠ '0' := by simpa using hzero
    have hdigits := someDigits_append hds hhead (.here .number [])
    rw [List.cons_append, someDigits, if_pos hc] at hdigits
    rw [List.cons_append, unsigned, if_pos hc, Except.ok.inj hdigits, hread]
    · rintro _ _ rfl
      exact absurd rfl hc0
    · rintro rfl
      exact absurd rfl hc0

theorem unsigned_of_ok {cs rest : List Char} (h : unsigned cs = .ok rest) : ∃ ds, IsUnsigned ds ∧ cs = ds ++ rest := by
  unfold unsigned at h
  split at h
  · rename_i c cs
    split at h
    · cases h
    · obtain ⟨f, e, hf, he, hcs⟩ := fraction_of_ok h
      exact ⟨_, ⟨['0'], f, e, .inl rfl, hf, he, rfl⟩, by rw [hcs]; simp⟩
  · cases h
    exact ⟨['0'], ⟨['0'], [], [], .inl rfl, .inl rfl, .inl rfl, rfl⟩, rfl⟩
  · rename_i c cs hzero hlone
    split at h
    · rename_i hc
      obtain ⟨f, e, hf, he, hcs⟩ := fraction_of_ok h
      have hread : someDigits (c :: cs) (.here .number []) = .ok (digits cs) := if_pos hc
      obtain ⟨ds, hds, heq⟩ := digits_of_someDigits hread
      obtain ⟨d, ds, rfl⟩ := List.exists_cons_of_ne_nil hds.1
      obtain ⟨rfl, hcs'⟩ := List.cons.inj heq
      refine ⟨_, ⟨_, f, e, .inr ⟨hds, ?_⟩, hf, he, rfl⟩, by rw [hcs', hcs]; simp⟩
      rintro ⟨⟩
      cases cs with
      | nil => exact hlone rfl rfl
      | cons d cs => exact hzero d cs rfl rfl
    · cases h
  · cases h

theorem eq_append_of_word {ws cs rest : List Char} (h : word ws cs = .ok rest) : cs = ws ++ rest := by
  fun_induction word ws cs with
  | case1 cs => cases h; rfl
  | case2 => cases h
  | case3 w ws cs ih => rw [ih h, List.cons_append]
  | case4 => cases h

def IsToken (cs : List Char) : Prop := cs ∈ ["null".toList, "true".toList, "false".toList] ∨ IsNumber cs ∨ IsString cs

theorem IsToken.isValue {cs : List Char} (h : IsToken cs) : IsValue cs := by
  rcases h with h | h | h
  · exact .word cs h
  · exact .number cs h
  · exact .string cs h

theorem token_digit {c : Char} (h : c.isDigit = true) (cs : List Char) :
    token (c :: cs) = (unsigned (c :: cs)).map (none, ·) := by
  have hne (x : Char) (hx : x.isDigit = false) : c ≠ x := by
    rintro rfl
    rw [h] at hx
    cases hx
  rw [token, if_pos h]
  · exact hne 'n' rfl
  · exact hne 't' rfl
  · exact hne 'f' rfl
  · exact hne '-' rfl
  · exact hne '"' rfl
  · exact hne '[' rfl
  · exact hne '\x7b' rfl

theorem token_append {cs rest : List Char} (h : IsToken cs) (hrest : Number.Stops rest) :
    token (cs ++ rest) = .ok (none, rest) := by
  rcases h with h | ⟨sign, ds, hsign, hds, rfl⟩ | ⟨inner, hinner, rfl⟩
  · simp only [List.mem_cons, List.not_mem_nil, or_false] at h
    rcases h with rfl | rfl | rfl <;> rfl
  · have hread := unsigned_append hds hrest
    rcases hsign with rfl | ⟨c, hc, rfl⟩
    · obtain ⟨c, ds, rfl, hc⟩ := isUnsigned_head hds
      rw [List.nil_append, List.cons_append, token_digit hc, ← List.cons_append, hread]
      rfl
    · rw [List.mem_singleton.1 hc, List.append_assoc, List.singleton_append, token, hread]
      rfl
  · rw [List.cons_append, token, List.append_assoc, List.singleton_append, string_inner hinner]
    rfl

theorem map_eq_ok {ε α β : Type} {f : α → β} {x : Except ε α} {b : β} (h : x.map f = .ok b) :
    ∃ a, x = .ok a ∧ f a = b := by
  cases x with
  | error e => cases h
  | ok a => cases h; exact ⟨a, rfl, rfl⟩

theorem token_of_ok {cs rest : List Char} {frame : Option Frame} (h : token cs = .ok (frame, rest)) :
    (frame = none ∧ ∃ v, IsToken v ∧ cs = v ++ rest) ∨ ∃ f, frame = some f ∧ cs = opener f :: rest := by
  unfold token at h
  split at h
  · cases h
  · obtain ⟨_, hword, ⟨⟩⟩ := map_eq_ok h
    exact .inl ⟨rfl, "null".toList, .inl (by decide), by rw [eq_append_of_word hword]; rfl⟩
  · obtain ⟨_, hword, ⟨⟩⟩ := map_eq_ok h
    exact .inl ⟨rfl, "true".toList, .inl (by decide), by rw [eq_append_of_word hword]; rfl⟩
  · obtain ⟨_, hword, ⟨⟩⟩ := map_eq_ok h
    exact .inl ⟨rfl, "false".toList, .inl (by decide), by rw [eq_append_of_word hword]; rfl⟩
  · obtain ⟨_, hread, ⟨⟩⟩ := map_eq_ok h
    obtain ⟨ds, hds, rfl⟩ := unsigned_of_ok hread
    exact .inl ⟨rfl, _, .inr (.inl ⟨['-'], ds, .inr ⟨'-', by simp, rfl⟩, hds, rfl⟩), rfl⟩
  · obtain ⟨_, hread, ⟨⟩⟩ := map_eq_ok h
    obtain ⟨inner, hinner, rfl⟩ := inner_of_string hread
    exact .inl ⟨rfl, _, .inr (.inr ⟨inner, hinner, rfl⟩), by simp⟩
  · cases h
    exact .inr ⟨.list, rfl, rfl⟩
  · cases h
    exact .inr ⟨.object, rfl, rfl⟩
  · split at h
    · obtain ⟨_, hread, ⟨⟩⟩ := map_eq_ok h
      obtain ⟨ds, hds, heq⟩ := unsigned_of_ok hread
      exact .inl ⟨rfl, _, .inr (.inl ⟨[], ds, .inl rfl, hds, rfl⟩), heq⟩
    · cases h

theorem skipSpace_value {v : List Char} (h : IsValue v) {gap : List Char} (hgap : IsBlank gap) (rest : List Char) :
    skipSpace (gap ++ (v ++ rest)) = v ++ rest := by
  obtain ⟨c, cs, rfl, hc, -⟩ := h.cons
  rw [skipSpace_blank hgap, List.cons_append, skipSpace_cons hc]

theorem name_append {gap n after : List Char} (hgap : IsBlank gap) (hn : IsString n) (hafter : IsBlank after)
    (rest : List Char) : name (gap ++ (n ++ (after ++ ':' :: rest))) = .ok rest := by
  obtain ⟨inner, hinner, rfl⟩ := hn
  have hstring := string_inner hinner (after ++ ':' :: rest)
  rw [name, skipSpace_blank hgap, List.cons_append, skipSpace_cons rfl, List.append_assoc, List.singleton_append]
  simp only [hstring, bind, Except.bind, skipSpace_blank hafter, skipSpace_cons (c := ':') rfl, pure, Except.pure]

theorem part_label {frame : Frame} {n label : List Char} (h : Part.Labels frame n label) (rest : List Char) :
    part frame (label ++ rest) = .ok rest := by
  cases h with
  | list => rfl
  | object before n after hbefore hname hafter =>
      have hread := name_append hbefore hname hafter rest
      simpa [part] using hread

theorem label_of_part {frame : Frame} {cs rest : List Char} (h : part frame cs = .ok rest) :
    ∃ n label, Part.Labels frame n label ∧ cs = label ++ rest := by
  cases frame with
  | list =>
      cases h
      exact ⟨[], [], .list, rfl⟩
  | object =>
      obtain ⟨gap, hgap, hcs⟩ := blank_skipSpace cs
      rw [part, name] at h
      split at h
      · rename_i tail hquote
        cases hread : string tail with
        | error failure => rw [hread] at h; cases h
        | ok rest' =>
            obtain ⟨inner, hinner, rfl⟩ := inner_of_string hread
            obtain ⟨after, hafter, hrest⟩ := blank_skipSpace rest'
            rw [hread] at h
            simp only [bind, Except.bind] at h
            split at h
            · rename_i beyond hcolon
              cases h
              refine ⟨_, _, .object gap _ after hgap ⟨inner, hinner, rfl⟩ hafter, ?_⟩
              rw [hcs, hquote, hrest, hcolon]
              simp
            · cases h
            · cases h
      · cases h
      · cases h

end Raw

end Outbox.Json

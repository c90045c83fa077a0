import Mathlib.Data.List.DropRight
import Outbox.Proofs.Account.Journal

namespace Outbox

namespace Text

/-- There is something in the text, and neither end of it is blank. -/
structure IsTrim (s : String) : Prop where
  nonempty : s ≠ ""
  first : ∀ c, s.toList.head? = some c → isBlank c = false
  last : ∀ c, s.toList.getLast? = some c → isBlank c = false

theorem isBlank_head_trimStart {cs : List Char} {c : Char} (h : (trimStart cs).head? = some c) : isBlank c = false := by
  have hnot := List.head?_dropWhile_not isBlank cs
  rw [← trimStart, h] at hnot
  exact hnot

theorem trimmed_prefix (cs : List Char) : trimmed cs <+: trimStart cs := List.rdropWhile_prefix isBlank (trimStart cs)

theorem isTrim_trim {s : String} (h : trim s ≠ "") : IsTrim (trim s) := by
  have hchars : (trim s).toList = trimmed s.toList := String.toList_ofList
  refine ⟨h, ?_, ?_⟩
  · intro c hc
    rw [hchars] at hc
    obtain ⟨rest, hrest⟩ := trimmed_prefix s.toList
    have hhead : (trimStart s.toList).head? = some c := by rw [← hrest, List.head?_append, hc, Option.some_or]
    exact isBlank_head_trimStart hhead
  · intro c hc
    rw [hchars, trimmed, List.getLast?_reverse] at hc
    exact isBlank_head_trimStart hc

end Text

theorem AccountName.of?_eq_ok {s : String} {n : AccountName} (h : of? s = .ok n) : Text.IsTrim n.text := by
  unfold of? at h
  split at h
  · cases h
  · rename_i hs
    cases h
    exact Text.isTrim_trim hs

theorem Cpf.of?_eq_ok {s : String} {c : Cpf} (h : of? s = .ok c) : Text.trim s ≠ "" ∧ c = ⟨Text.trim s⟩ := by
  unfold of? at h
  split at h
  · cases h
  · rename_i hs
    cases h
    exact ⟨hs, rfl⟩

/-- No number is that of two accounts, and what the accounts are known by is never blank. -/
structure AccountStore.IsRegistry (s : AccountStore) : Prop where
  unique : ∀ a ∈ s.accounts.entries, ∀ b ∈ s.accounts.entries, a.cpf = b.cpf → a = b
  name : ∀ a ∈ s.accounts.entries, Text.IsTrim a.name.text
  cpf : ∀ a ∈ s.accounts.entries, Text.IsTrim a.cpf.text

namespace Account

theorem not_both (a : Account) : ¬ (a.isDeleted = true ∧ a.isActive = true) := by
  simp only [isDeleted, isActive, beq_iff_eq]
  rintro ⟨hdeleted, hactive⟩
  cases hdeleted.symm.trans hactive

theorem ofParts_self (a : Account) :
    ofParts a.id a.name a.cpf a.isActive a.isDeleted a.createdAt a.updatedAt = .ok a := by
  obtain ⟨id, name, cpf, standing, createdAt, updatedAt⟩ := a
  cases standing <;> rfl

end Account

namespace AccountStore

variable {s : AccountStore} {order : SearchOrder} {a b : Account} {cpf : Cpf}

theorem isRegistry_empty : empty.IsRegistry := by
  constructor <;> simp [empty, Table.empty]

theorem IsRegistry.find?_eq_some (hs : s.IsRegistry) {accounts : List Account}
    (h : accounts.Perm s.accounts.entries) :
    accounts.find? (·.cpf = cpf) = some a ↔ a ∈ s.accounts.entries ∧ a.cpf = cpf := by
  constructor
  · exact fun hfind => ⟨h.mem_iff.1 (List.mem_of_find?_eq_some hfind), by simpa using List.find?_some hfind⟩
  · rintro ⟨ha, rfl⟩
    cases hfind : accounts.find? (·.cpf = a.cpf) with
    | none => exact absurd (List.find?_eq_none.1 hfind a (h.mem_iff.2 ha)) (by simp)
    | some b =>
        have hb := h.mem_iff.1 (List.mem_of_find?_eq_some hfind)
        rw [hs.unique b hb a ha (by simpa using List.find?_some hfind)]

theorem IsRegistry.findByCpf_eq_some (hs : s.IsRegistry) :
    s.findByCpf order cpf = some a ↔ a ∈ s.accounts.entries ∧ a.cpf = cpf :=
  hs.find?_eq_some (order.perm s)

theorem IsRegistry.find?_perm (hs : s.IsRegistry) {accounts : List Account} (h : accounts.Perm s.accounts.entries)
    (order : SearchOrder) (cpf : Cpf) : accounts.find? (·.cpf = cpf) = s.findByCpf order cpf := by
  apply Option.ext
  intro a
  rw [hs.find?_eq_some h, hs.findByCpf_eq_some]

theorem IsRegistry.put (hs : s.IsRegistry) (hname : Text.IsTrim b.name.text) (hcpf : Text.IsTrim b.cpf.text)
    (hother : ∀ a ∈ s.accounts.entries, a.cpf = b.cpf → a.id = b.id) : (s.put b).IsRegistry where
  unique a ha a' ha' hsame := by
    rw [mem_put] at ha ha'
    rcases ha with rfl | ⟨ha, hid⟩ <;> rcases ha' with rfl | ⟨ha', hid'⟩
    · rfl
    · exact absurd (hother a' ha' hsame.symm) hid'
    · exact absurd (hother a ha hsame) hid
    · exact hs.unique a ha a' ha' hsame
  name a ha := by
    obtain rfl | ⟨ha, -⟩ := mem_put.1 ha
    · exact hname
    · exact hs.name a ha
  cpf a ha := by
    obtain rfl | ⟨ha, -⟩ := mem_put.1 ha
    · exact hcpf
    · exact hs.cpf a ha

end AccountStore

namespace AccountService

variable {s : AccountStore} {a b : Account} {now : Time} {es : List AccountEvent} {request : AccountRequest}
  {id : AccountId} {c : Change} {cpf : Cpf} {owner : Option AccountId} {order : SearchOrder}

theorem cpfIsTaken_iff (hs : s.IsRegistry) :
    cpfIsTaken s order cpf owner = true ↔ ∃ a ∈ s.accounts.entries, a.cpf = cpf ∧ some a.id ≠ owner := by
  rw [cpfIsTaken, Option.any_eq_true]
  simp only [hs.findByCpf_eq_some, and_assoc, bne_iff_ne]

theorem Asks.brings (h : Asks s order request id c) (hb : c a now = .ok (b, es)) :
    b.id = a.id ∧ (b.name = a.name ∨ Text.IsTrim b.name.text) ∧
      (b.cpf = a.cpf ∨ Text.IsTrim b.cpf.text ∧ cpfIsTaken s order b.cpf (some id) = false) := by
  cases h with
  | changeName id name n hn =>
      obtain ⟨rfl, -⟩ := changingName_eq_ok hb
      exact ⟨rfl, .inr (AccountName.of?_eq_ok hn), .inl rfl⟩
  | changeCpf id cpf c hc hfree =>
      obtain ⟨rfl, -⟩ := changingCpf_eq_ok hb
      obtain ⟨hne, rfl⟩ := Cpf.of?_eq_ok hc
      exact ⟨rfl, .inl rfl, .inr ⟨Text.isTrim_trim hne, hfree⟩⟩
  | activate =>
      obtain ⟨-, rfl, -⟩ | ⟨-, rfl, -⟩ := activating_eq_ok hb
      · exact ⟨rfl, .inl rfl, .inl rfl⟩
      · exact ⟨rfl, .inl rfl, .inl rfl⟩
  | deactivate =>
      obtain ⟨-, rfl, -⟩ := deactivating_eq_ok hb
      exact ⟨rfl, .inl rfl, .inl rfl⟩
  | delete =>
      obtain ⟨-, rfl, -⟩ := deleting_eq_ok hb
      exact ⟨rfl, .inl rfl, .inl rfl⟩
  | restore =>
      obtain ⟨-, rfl, -⟩ := restoring_eq_ok hb
      exact ⟨rfl, .inl rfl, .inl rfl⟩

theorem not_taken (hs : s.IsRegistry) (hfree : cpfIsTaken s order cpf owner = false) (ha : a ∈ s.accounts.entries)
    (hcpf : a.cpf = cpf) : some a.id = owner := by
  by_contra hother
  have htaken : cpfIsTaken s order cpf owner = true := (cpfIsTaken_iff hs).2 ⟨a, ha, hcpf, hother⟩
  rw [hfree] at htaken
  cases htaken

theorem Granted.put {ids rest : IdSource} (hs : s.IsRegistry) (h : Granted s order ids now request b es rest) :
    (s.put b).IsRegistry := by
  cases h with
  | created name cpf n c hn hc hfree =>
      obtain ⟨hne, rfl⟩ := Cpf.of?_eq_ok hc
      refine hs.put (AccountName.of?_eq_ok hn) (Text.isTrim_trim hne) fun a ha hcpf => ?_
      cases not_taken hs hfree ha hcpf
  | changed _ id c a _ _ hask ha hb =>
      obtain ⟨hid, hname, hcpf⟩ := hask.brings hb
      obtain ⟨hmem, rfl⟩ := AccountStore.get?_eq_some_iff.1 ha
      refine hs.put ?_ ?_ fun a' ha' hsame => ?_
      · rcases hname with he | htrim
        · exact he ▸ hs.name a hmem
        · exact htrim
      · rcases hcpf with he | ⟨htrim, -⟩
        · exact he ▸ hs.cpf a hmem
        · exact htrim
      · rcases hcpf with he | ⟨-, hfree⟩
        · rw [hid, hs.unique a' ha' a hmem (hsame.trans he)]
        · rw [hid, Option.some.inj (not_taken hs hfree ha' hsame)]

/-- What a request brings is valid, but its number is that of another account. -/
inductive Collides (s : AccountStore) : AccountRequest → Cpf → Prop
  | create (name cpf : String) (a : Account) (hname : Text.trim name ≠ "") (hcpf : Text.trim cpf ≠ "")
      (ha : a ∈ s.accounts.entries) (hsame : a.cpf.text = Text.trim cpf) :
      Collides s (.create name cpf) ⟨Text.trim cpf⟩
  | changeCpf (id : AccountId) (cpf : String) (a : Account) (hcpf : Text.trim cpf ≠ "")
      (ha : a ∈ s.accounts.entries) (hsame : a.cpf.text = Text.trim cpf) (hother : a.id ≠ id) :
      Collides s (.changeCpf id cpf) ⟨Text.trim cpf⟩

variable {accounts : AccountStore} {ids left : IdSource} {correlationId : Option String} {action : String}
  {taken : Cpf}

theorem change_not_taken :
    (change accounts ids now correlationId action id c).value.1 ≠ .error (.cpfTaken taken) := by
  unfold change
  cases accounts.get? id with
  | none => simp
  | some a =>
      dsimp only
      cases c a now with
      | error e => simp
      | ok p => simp [prepare_eq]

theorem collides_create {name cpf : String} (hs : s.IsRegistry) (order : SearchOrder) :
    Collides s (.create name cpf) taken ↔ Text.trim name ≠ "" ∧ Text.trim cpf ≠ "" ∧
      cpfIsTaken s order ⟨Text.trim cpf⟩ none = true ∧ taken = ⟨Text.trim cpf⟩ := by
  rw [cpfIsTaken_iff hs]
  constructor
  · rintro ⟨_, _, a, hname, hcpf, ha, hsame⟩
    exact ⟨hname, hcpf, ⟨a, ha, congrArg Cpf.mk hsame, by simp⟩, rfl⟩
  · rintro ⟨hname, hcpf, ⟨a, ha, hsame, -⟩, rfl⟩
    exact .create name cpf a hname hcpf ha (congrArg Cpf.text hsame)

theorem collides_changeCpf {cpf : String} (hs : s.IsRegistry) (order : SearchOrder) :
    Collides s (.changeCpf id cpf) taken ↔ Text.trim cpf ≠ "" ∧
      cpfIsTaken s order ⟨Text.trim cpf⟩ (some id) = true ∧ taken = ⟨Text.trim cpf⟩ := by
  rw [cpfIsTaken_iff hs]
  constructor
  · intro h
    cases h with
    | changeCpf _ _ a hcpf ha hsame hother => exact ⟨hcpf, ⟨a, ha, congrArg Cpf.mk hsame, by simpa using hother⟩, rfl⟩
  · rintro ⟨hcpf, ⟨a, ha, hsame, hother⟩, rfl⟩
    exact .changeCpf id cpf a hcpf ha (congrArg Cpf.text hsame) (by simpa using hother)

theorem create_taken_iff {name : AccountName} :
    (create accounts order ids now correlationId name cpf).value.1 = .error (.cpfTaken taken) ↔
      cpfIsTaken accounts order cpf none = true ∧ taken = cpf := by
  unfold create
  split
  · rename_i htaken
    simp [htaken, eq_comm]
  · rename_i hfree
    simp [hfree, prepare_eq]

theorem draft_taken_iff (hs : s.IsRegistry) :
    (draft s order ids now correlationId request).value.1 = .error (.cpfTaken taken) ↔ Collides s request taken := by
  cases request with
  | create name cpf =>
      rw [collides_create hs order, draft, AccountName.of?, Cpf.of?]
      split_ifs with hname hcpf hcpf
      · simp [hname]
      · simp [hname]
      · simp [hcpf]
      · simp [hname, hcpf, create_taken_iff]
  | changeCpf id cpf =>
      rw [collides_changeCpf hs order, draft, Cpf.of?]
      split_ifs with hcpf
      · simp [hcpf]
      · dsimp only
        split
        · rename_i htaken
          simp [hcpf, htaken, eq_comm]
        · rename_i hfree
          simp [hfree, change_not_taken]
  | changeName id name =>
      refine iff_of_false ?_ fun h => by cases h
      rw [draft, AccountName.of?]
      split_ifs
      · simp
      · exact change_not_taken
  | activate id | deactivate id | delete id | restore id => exact iff_of_false change_not_taken fun h => by cases h

theorem handle_taken_iff {l : Ledger} (hs : l.accounts.IsRegistry) :
    (handle l order now correlationId request).value.1 = .error (.cpfTaken taken) ↔
      Collides l.accounts request taken := by
  have hdraft := @draft_taken_iff l.accounts now request order l.ids correlationId taken hs
  rw [← hdraft]
  rcases hd : (draft l.accounts order l.ids now correlationId request).value with ⟨e | d, left⟩
  · rw [handle_of_error hd]
    simp
  · rw [handle_of_draft hd]
    cases hs : d.unit.apply l.accounts l.store with
    | error e =>
        rw [commit_of_error (l := { l with ids := left }) hs]
        simp
    | ok stores =>
        rw [commit_of_ok (l := { l with ids := left }) hs]
        simp

end AccountService

namespace Office

open AccountService

variable {ι : Type} [DecidableEq ι]

theorem serve_isRegistry {o : Office ι} (h : o.accounts.IsRegistry) (c : Call ι) :
    (o.serve c).accounts.IsRegistry := by
  rcases o.serve_cases c with ⟨left, -, hserve, -⟩ | ⟨b, es, rest, store, hgrant, -, -, hserve⟩
  · rw [hserve]
    exact h
  · rw [hserve]
    exact hgrant.put h

theorem after_isRegistry {o : Office ι} (h : o.accounts.IsRegistry) (cs : List (Call ι)) :
    (o.after cs).accounts.IsRegistry := by
  induction cs generalizing o with
  | nil => exact h
  | cons c cs ih => exact ih (serve_isRegistry h c)

/-- Whatever is asked of services that start with nothing, the accounts are kept under their own ids, no two of
them share a number, and a number is refused exactly when another account has it. -/
theorem accounts_registered (ids : ι → IdSource) (cs : List (Call ι)) :
    let o := (opened ids).after cs
    (∀ id a, o.accounts.get? id = some a ↔ a ∈ o.accounts.accounts.entries ∧ a.id = id) ∧
    (∀ a ∈ o.accounts.accounts.entries, ∀ b ∈ o.accounts.accounts.entries, a.cpf = b.cpf → a = b) ∧
    (∀ (accounts : List Account) (order : SearchOrder) (cpf : Cpf), accounts.Perm o.accounts.accounts.entries →
      accounts.find? (·.cpf = cpf) = o.accounts.findByCpf order cpf) ∧
    (∀ a ∈ o.accounts.accounts.entries, ¬ (a.isDeleted = true ∧ a.isActive = true) ∧
      Account.ofParts a.id a.name a.cpf a.isActive a.isDeleted a.createdAt a.updatedAt = .ok a ∧
      Text.IsTrim a.name.text ∧ Text.IsTrim a.cpf.text) ∧
    ∀ (c : Call ι) (taken : Cpf), (o.answer c).1 = .error (.cpfTaken taken) ↔ Collides o.accounts c.request taken := by
  have h : ((opened ids).after cs).accounts.IsRegistry := after_isRegistry AccountStore.isRegistry_empty cs
  exact ⟨fun _ _ => AccountStore.get?_eq_some_iff, h.unique, fun _ order cpf hperm => h.find?_perm hperm order cpf,
    fun a ha => ⟨a.not_both, a.ofParts_self, h.name a ha, h.cpf a ha⟩, fun _ _ => handle_taken_iff h⟩

end Office

end Outbox

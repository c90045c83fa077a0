namespace Outbox

class Keyed (α : Type) where
  key : α → Nat

export Keyed (key)

/-- Entries under their keys, in ascending order, so that a table depends on nothing but its entries. -/
structure Table (α : Type) [Keyed α] where
  entries : List α
  ascending : entries.Pairwise (key · < key ·)
deriving DecidableEq

namespace Table

variable {α : Type} [Keyed α]

def empty : Table α := ⟨[], .nil⟩

instance : Inhabited (Table α) := ⟨empty⟩

instance : Membership α (Table α) := ⟨fun t a => a ∈ t.entries⟩

def get? (t : Table α) (k : Nat) : Option α := t.entries.find? (key · == k)

def contains (t : Table α) (k : Nat) : Bool := (t.get? k).isSome

def size (t : Table α) : Nat := t.entries.length

def place (a : α) : List α → List α
  | [] => [a]
  | b :: bs => if key a < key b then a :: b :: bs else if key a = key b then a :: bs else b :: place a bs

theorem mem_place {a c : α} {bs : List α} (h : c ∈ place a bs) : c = a ∨ c ∈ bs := by
  induction bs with
  | nil => simpa [place] using h
  | cons b bs ih =>
    simp only [place] at h
    split at h
    · simpa using h
    · split at h
      · rcases List.mem_cons.1 h with rfl | h
        · exact .inl rfl
        · exact .inr (List.mem_cons_of_mem _ h)
      · rcases List.mem_cons.1 h with rfl | h
        · exact .inr (List.mem_cons_self ..)
        · exact (ih h).imp id (List.mem_cons_of_mem _)

theorem ascending_place {a : α} {bs : List α} (h : bs.Pairwise (key · < key ·)) :
    (place a bs).Pairwise (key · < key ·) := by
  induction bs with
  | nil => simp [place]
  | cons b bs ih =>
    obtain ⟨hb, hbs⟩ := List.pairwise_cons.1 h
    simp only [place]
    split
    · rename_i hab
      refine List.pairwise_cons.2 ⟨fun c hc => ?_, h⟩
      rcases List.mem_cons.1 hc with rfl | hc
      · exact hab
      · exact Nat.lt_trans hab (hb c hc)
    · split
      · rename_i hab
        exact List.pairwise_cons.2 ⟨fun c hc => hab ▸ hb c hc, hbs⟩
      · refine List.pairwise_cons.2 ⟨fun c hc => ?_, ih hbs⟩
        rcases mem_place hc with rfl | hc
        · omega
        · exact hb c hc

def insert (t : Table α) (a : α) : Table α := ⟨place a t.entries, ascending_place t.ascending⟩

def insertAll (t : Table α) (as : List α) : Table α := as.foldl insert t

def filter (t : Table α) (p : α → Bool) : Table α := ⟨t.entries.filter p, t.ascending.filter p⟩

end Table

end Outbox

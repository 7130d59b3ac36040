import Mathlib.Logic.Function.Basic
import Mathlib.Logic.Relation
import PixelBuffer.Platform.History

/-!
# Where the descriptors of a desk come from

An `Entry` is a slot of a desk. The history of a desk tells which entries were made from which
others: `DeskHistory.Linked` relates entries that come from one file that was opened, and
`DeskHistory.Cloned` relates shared slots that come from one share by cloning alone.

Both relations grow by one new entry at a time, which is a root or is linked to an entry that was
known before. `Classifies` says that entries are related exactly when they have the same name;
`Classifies.root` and `Classifies.link` name a new entry.
-/

namespace PixelBuffer

/-! ## Names for the classes of a relation -/

/-- The entries that are known are related through `related` exactly when they have the same name.
All names are below `bound`. -/
structure Classifies {α : Type} (related : α → α → Prop) (known : α → Prop) (name : α → Nat)
    (bound : Nat) : Prop where
  left : ∀ {a b}, related a b → known a
  right : ∀ {a b}, related a b → known b
  sound : ∀ {a b}, related a b → name a = name b
  complete : ∀ {a b}, known a → known b → name a = name b → Relation.EqvGen related a b
  lt : ∀ {a}, known a → name a < bound

namespace Classifies

variable {α : Type} {related : α → α → Prop} {known : α → Prop} {name : α → Nat} {bound : Nat}
  {a b : α}

/-- What is related has the same name. -/
theorem name_eq (h : Classifies related known name bound) (hab : Relation.EqvGen related a b) :
    name a = name b := by
  induction hab with
  | rel _ _ hrelated => exact h.sound hrelated
  | refl _ => rfl
  | symm _ _ _ ih => exact ih.symm
  | trans _ _ _ _ _ ih ih' => exact ih.trans ih'

/-- Two known entries are related exactly when they have the same name. -/
theorem iff (h : Classifies related known name bound) (ha : known a) (hb : known b) :
    Relation.EqvGen related a b ↔ name a = name b :=
  ⟨h.name_eq, h.complete ha hb⟩

/-- Nothing is known. -/
theorem nothing (hrelated : ∀ a b, ¬ related a b) (hknown : ∀ a, ¬ known a) :
    Classifies related known name bound where
  left hab := absurd hab (hrelated _ _)
  right hab := absurd hab (hrelated _ _)
  sound hab := absurd hab (hrelated _ _)
  complete ha := absurd ha (hknown _)
  lt ha := absurd ha (hknown _)

/-- The same relation and the same entries, in other words. -/
theorem congr (h : Classifies related known name bound) {related' : α → α → Prop}
    {known' : α → Prop} {bound' : Nat} (hrelated : ∀ a b, related' a b ↔ related a b)
    (hknown : ∀ a, known' a ↔ known a) (hbound : bound ≤ bound') :
    Classifies related' known' name bound' := by
  obtain rfl : related' = related := funext₂ fun a b => propext (hrelated a b)
  obtain rfl : known' = known := funext fun a => propext (hknown a)
  exact { h with lt := fun ha => Nat.lt_of_lt_of_le (h.lt ha) hbound }

variable [DecidableEq α] {new source : α} {number : Nat}

/-- The names of the entries that were known before. -/
theorem update_name (hnew : ¬ known new) (ha : known a) :
    Function.update name new number a = name a :=
  Function.update_of_ne (by rintro rfl; exact hnew ha) number name

/-- A new entry that is related to no other gets a name of its own. -/
theorem root (h : Classifies related known name bound) (hnew : ¬ known new) :
    Classifies related (fun a => known a ∨ a = new) (Function.update name new bound)
      (bound + 1) where
  left hab := .inl (h.left hab)
  right hab := .inl (h.right hab)
  sound hab := by
    rw [update_name hnew (h.left hab), update_name hnew (h.right hab), h.sound hab]
  complete {a b} ha hb hname := by
    rcases ha with ha | rfl <;> rcases hb with hb | rfl
    · rw [update_name hnew ha, update_name hnew hb] at hname
      exact h.complete ha hb hname
    · rw [update_name hnew ha, Function.update_self] at hname
      exact absurd hname (Nat.ne_of_lt (h.lt ha))
    · rw [update_name hnew hb, Function.update_self] at hname
      exact absurd hname.symm (Nat.ne_of_lt (h.lt hb))
    · exact .refl _
  lt ha := by
    rcases ha with ha | rfl
    · rw [update_name hnew ha]
      exact Nat.lt_succ_of_lt (h.lt ha)
    · rw [Function.update_self]
      exact Nat.lt_succ_self bound

/-- A new entry that is related to a known one gets the name of that. -/
theorem link (h : Classifies related known name bound) (hnew : ¬ known new)
    (hsource : known source) :
    Classifies (fun a b => related a b ∨ a = source ∧ b = new) (fun a => known a ∨ a = new)
      (Function.update name new (name source)) bound where
  left hab := hab.elim (fun hab => .inl (h.left hab)) fun hab => .inl (hab.1 ▸ hsource)
  right hab := hab.elim (fun hab => .inl (h.right hab)) fun hab => .inr hab.2
  sound {a b} hab := by
    rcases hab with hab | ⟨rfl, rfl⟩
    · rw [update_name hnew (h.left hab), update_name hnew (h.right hab), h.sound hab]
    · rw [update_name hnew hsource, Function.update_self]
  complete {a b} ha hb hname := by
    let related' := fun a b => related a b ∨ a = source ∧ b = new
    -- each entry is related to one that was known before and has its name
    have hold : ∀ {c}, known c ∨ c = new → ∃ old, known old ∧
        Relation.EqvGen related' c old ∧
        name old = Function.update name new (name source) c := by
      rintro c (hc | rfl)
      · exact ⟨c, hc, .refl c, (update_name hnew hc).symm⟩
      · exact ⟨source, hsource, .symm _ _ (.rel _ _ (.inr ⟨rfl, rfl⟩)),
          (Function.update_self c (name source) name).symm⟩
    obtain ⟨olda, ha, hrela, hnamea⟩ := hold ha
    obtain ⟨oldb, hb, hrelb, hnameb⟩ := hold hb
    have hsame := h.complete ha hb (hnamea.trans (hname.trans hnameb.symm))
    have hmore : Relation.EqvGen related' olda oldb :=
      hsame.mono fun _ _ hab => .inl hab
    exact .trans _ _ _ hrela (.trans _ _ _ hmore (.symm _ _ hrelb))
  lt ha := by
    rcases ha with ha | rfl
    · rw [update_name hnew ha]
      exact h.lt ha
    · rw [Function.update_self]
      exact h.lt hsource

end Classifies

/-! ## Entries and their history -/

/-- A slot of a desk. -/
inductive Entry where
  /-- A slot for a descriptor that is owned alone. -/
  | raw (slot : Nat)
  /-- A slot for a share. -/
  | shared (slot : Nat)
deriving DecidableEq

/-- The steps that were performed, each with its answer, oldest first. -/
abbrev DeskHistory := List (DeskStep × DeskAnswer)

/-- The entry that a step fills, by its answer. -/
def DeskStep.filled? : DeskStep → DeskAnswer → Option Entry
  | .create _, .slot slot | .duplicateShare _, .slot slot => some (.raw slot)
  | .shareDuplicate _, .slot slot | .adopt _, .slot slot | .retain _, .slot slot =>
      some (.shared slot)
  | _, _ => none

/-- The entry from which a step fills another one. -/
def DeskStep.source? : DeskStep → Option Entry
  | .shareDuplicate raw | .adopt raw => some (.raw raw)
  | .retain shared | .duplicateShare shared => some (.shared shared)
  | _ => none

namespace DeskHistory

/-- The second entry was filled from the first: it is a duplicate of it, a clone, or what became of
it. -/
def Derived (history : DeskHistory) (source new : Entry) : Prop :=
  ∃ step answer, (step, answer) ∈ history ∧ step.source? = some source ∧
    step.filled? answer = some new

/-- Two entries come from one file that was opened, through any others. -/
def Linked (history : DeskHistory) : Entry → Entry → Prop :=
  Relation.EqvGen history.Derived

/-- Two shared slots come from one share by cloning, through any others. -/
def Cloned (history : DeskHistory) : Nat → Nat → Prop :=
  Relation.EqvGen fun source new => (DeskStep.retain source, DeskAnswer.slot new) ∈ history

variable {history : DeskHistory} {step : DeskStep} {answer : DeskAnswer}

/-- One step more derives the entry that it fills from its source. -/
theorem derived_append {source new : Entry} :
    Derived (history ++ [(step, answer)]) source new ↔ history.Derived source new ∨
      step.source? = some source ∧ step.filled? answer = some new := by
  simp only [Derived, List.mem_append, List.mem_singleton, Prod.mk.injEq]
  constructor
  · rintro ⟨step', answer', hm | ⟨rfl, rfl⟩, hderived⟩
    · exact .inl ⟨step', answer', hm, hderived⟩
    · exact .inr hderived
  · rintro (⟨step', answer', hm, hderived⟩ | hderived)
    · exact ⟨step', answer', .inl hm, hderived⟩
    · exact ⟨step, answer, .inr ⟨rfl, rfl⟩, hderived⟩

end DeskHistory

end PixelBuffer

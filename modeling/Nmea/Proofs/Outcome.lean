import Mathlib.Data.List.Forall2

/-!
# Outcomes of several steps

Steps that may fail succeed one after the other exactly if each of them does.
-/

namespace Nmea

variable {ε α β : Type}

theorem guard_eq_some_iff {p : Prop} [Decidable p] {u : Unit} :
    (guard p : Option Unit) = some u ↔ p := by
  by_cases h : p
  · exact ⟨fun _ => h, fun _ => if_pos h⟩
  · have fails : (guard p : Option Unit) = none := if_neg h
    rw [fails]
    exact ⟨nofun, fun hp => absurd hp h⟩

theorem ite_bind_eq_some_iff {p : Prop} [Decidable p] {x y : Option α} {g : α → Option β} {b : β} :
    (if p then x.bind g else y.bind g) = some b ↔
      ∃ a, (if p then x else y) = some a ∧ g a = some b := by
  split <;> exact Option.bind_eq_some_iff

theorem bind_eq_ok_iff {x : Except ε α} {g : α → Except ε β} {b : β} :
    x >>= g = .ok b ↔ ∃ a, x = .ok a ∧ g a = .ok b := by
  cases x <;> simp [bind, Except.bind]

theorem eq_ok_of_toOption {x : Except ε α} {a : α} (h : x.toOption = some a) : x = .ok a := by
  cases x <;> cases h
  rfl

theorem mapM_eq_ok_iff {f : α → Except ε β} {l : List α} {bs : List β} :
    l.mapM f = .ok bs ↔ List.Forall₂ (fun a b => f a = .ok b) l bs := by
  induction l generalizing bs with
  | nil =>
    rw [List.mapM_nil, List.forall₂_nil_left_iff]
    exact ⟨fun h => (Except.ok.inj h).symm, fun h => h ▸ rfl⟩
  | cons a l ih =>
    simp only [List.mapM_cons, bind_eq_ok_iff, List.forall₂_cons_left_iff, ih]
    constructor
    · rintro ⟨b, hb, cs, hcs, h⟩
      exact ⟨b, cs, hb, hcs, (Except.ok.inj h).symm⟩
    · rintro ⟨b, cs, hb, hcs, rfl⟩
      exact ⟨b, hb, cs, hcs, rfl⟩

theorem mapM_eq_ok {f : α → Except ε β} {g : α → β} {l : List α}
    (h : ∀ a ∈ l, f a = .ok (g a)) : l.mapM f = .ok (l.map g) := by
  rwa [mapM_eq_ok_iff, List.forall₂_map_right_iff, List.forall₂_same]

end Nmea

import Nmea.Proofs.Number.Shortest
import Nmea.Proofs.Record.Value

/-!
# Floating-point numbers in fields

Every number can be written into a field, and all but one are read again from what was written:
zeros with their sign, the infinity on the positive side, and what is not a number. The infinity on
the negative side is written as a name behind a sign, which is not read
(`Record.readsBack_binary`).
-/

namespace Nmea

variable {f : Format} [FieldValue (Binary f)] {r : Record} {index : Nat} {x : Binary f}

/-- Writing a number into a field, and reading it again: it is written into every field that is
there, and read as itself, unless it is the infinity on the negative side. -/
structure Record.ReadsBack (r : Record) (index : Nat) (x : Binary f) : Prop where
  apply_setValue_eq : (Edit.setValue index x).apply r =
    if index < r.count then (.ok (), { r with fields := r.fields.set index x.plain })
    else (.error (r.outOfRange index), r)
  get_eq : ∀ s, (Edit.setValue index x).apply r = (.ok (), s) → s.get (Binary f) index =
    if x = .infinite true then
      .error (.fieldParse index "-inf".toList (FieldValue.name (Binary f)))
    else .ok x

namespace Record

section Instance

variable (read : ∀ t, FieldValue.read t = (readBinary t : Option (Binary f × Text)))

include read

theorem get_eq_ok_of_plain (hx : x ≠ .infinite true) (hf : r.fields[index]? = some x.plain)
    (bits : 0 < f.fractionBits) : r.get (Binary f) index = .ok x := by
  have found : (readBinary x.plain : Option (Binary f × Text)) = some (x, []) :=
    readBinary_eq_some_iff.mpr (Binary.denotes_plain bits hx)
  have some_text : x.plain ≠ [] := by
    intro none
    rw [none] at found
    cases found
  rw [get_eq_ok_iff]
  exact ⟨_, hf, some_text, FieldValue.readAll_eq_some_iff.mpr ((read _).trans found)⟩

theorem get_eq_error_of_plain (hf : r.fields[index]? = some (.infinite true : Binary f).plain) :
    r.get (Binary f) index =
      .error (.fieldParse index "-inf".toList (FieldValue.name (Binary f))) := by
  cases answer : r.get (Binary f) index with
  | error why => rw [eq_fieldParse_of_get hf (List.cons_ne_nil _ _) answer]; rfl
  | ok y =>
    obtain ⟨text, found, -, value⟩ := get_eq_ok_iff.mp answer
    cases found.symm.trans hf
    rw [FieldValue.readAll_eq_some_iff, read] at value
    cases value

theorem readsBack (write : ∀ x : Binary f, FieldValue.write x = x.plain)
    (bits : 0 < f.fractionBits) (r : Record) (index : Nat) (x : Binary f) :
    r.ReadsBack index x := by
  have applied : (Edit.setValue index x).apply r =
      if index < r.count then (.ok (), { r with fields := r.fields.set index x.plain })
      else (.error (r.outOfRange index), r) := by
    rw [Edit.setValue, write, Edit.apply_setField, if_pos (Binary.isFieldText_plain bits x)]
  refine ⟨applied, ?_⟩
  intro s hs
  rw [applied] at hs
  split at hs
  · next there =>
    cases hs
    have field : (r.fields.set index x.plain)[index]? = some x.plain :=
      List.getElem?_set_self there
    split
    · next hx =>
      subst hx
      exact get_eq_error_of_plain read field
    · next hx => exact get_eq_ok_of_plain read hx field bits
  · cases hs

end Instance

/-- Numbers of both widths are read again from the fields they were written into, but for the
negative infinity. -/
theorem readsBack_binary (r : Record) (index : Nat) :
    (∀ x : Double, r.ReadsBack index x) ∧ ∀ x : Single, r.ReadsBack index x :=
  ⟨readsBack (fun _ => rfl) (fun _ => rfl) (by decide) r index,
    readsBack (fun _ => rfl) (fun _ => rfl) (by decide) r index⟩

/-- Negative infinity can be written into a field, but not read from it. -/
theorem not_get_of_setValue_binary : ¬ ∀ (r s : Record) (index : Nat) (x : Double),
    (Edit.setValue index x).apply r = (.ok (), s) → s.get Double index = .ok x := by
  intro lossless
  let r := Record.blank .standard (.named .GP) "XDR".toList 1
  have written : (Edit.setValue 0 (.infinite true : Double)).apply r =
      (.ok (), { r with fields := ["-inf".toList] }) := by
    rfl
  cases lossless _ _ _ _ written

end Record

end Nmea

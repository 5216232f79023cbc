import Nmea.Proofs.Line.Shape
import Nmea.Proofs.Record.Atomic

/-!
# Setters of one step

A setter of one field renders its value as a text, without a look at the record, and then writes the
text into the field (`FieldSetter.apply_edit`). What can go wrong is therefore looked at in this
order: the value, the characters of its text, and whether the field is there. Whichever of these
fails, the record stays as it was, and otherwise the one field is different and nothing else
(`FieldSetter.isExact`). The setter of the talker does as much for the talker.
-/

namespace Nmea

/-- The setters of one field, by what they are given to write. -/
inductive FieldSetter : Type 1
  | text (text : Text)
  /-- Characters, integers, numbers, times, dates and the values of any further type. -/
  | value {α : Type} [FieldValue α] (value : α)
  | int (value : Int32) (leading : Nat)
  | double (value : Double) (leading decimals : Nat)
  | degrees (value : Double)

namespace FieldSetter

/-- What a setter does. -/
def edit (index : Nat) : FieldSetter → Edit Unit
  | text t                    => Edit.setField index t
  | value v                   => Edit.setValue index v
  | int v leading             => Edit.setInt index v leading
  | double v leading decimals => Edit.setDouble index v leading decimals
  | degrees v                 => Edit.setDegrees index v

/-- The text of a number with fixed decimals, or the error that it is not finite. -/
def renderedDouble (index : Nat) (v : Double) (leading decimals : Nat) : Except Error Text :=
  match v.magnitude? with
  | some magnitude => .ok (Edit.fixedText v.isNegative magnitude leading decimals)
  | none           => .error (.invalidFieldValue index v.plain)

/-- The text that a setter renders its value as, or what is wrong with the value. -/
def rendered (index : Nat) : FieldSetter → Except Error Text
  | text t                    => .ok t
  | value v                   => .ok (FieldValue.write v)
  | int v leading             => .ok (signedPadded leading v.toInt)
  | double v leading decimals => renderedDouble index v leading decimals
  | degrees v                 =>
    if Binary.le (.ofNat 0) v && v.le Edit.fullTurn then renderedDouble index v 3 1
    else .error (.valueOutOfRange v (.ofNat 0) Edit.fullTurn)

variable {setter : FieldSetter} {index : Nat} {text : Text} {r : Record}

theorem apply_setDouble (index : Nat) (value : Double) (leading decimals : Nat) (r : Record) :
    (Edit.setDouble index value leading decimals).apply r =
      match renderedDouble index value leading decimals with
      | .ok text   => (Edit.setField index text).apply r
      | .error why => (.error why, r) := by
  rw [Edit.setDouble, renderedDouble]
  cases value.magnitude? with
  | some magnitude => rfl
  | none => rfl

/-- A setter writes the text that it renders. -/
theorem apply_edit (setter : FieldSetter) (index : Nat) (r : Record) :
    (setter.edit index).apply r =
      match setter.rendered index with
      | .ok text   => (Edit.setField index text).apply r
      | .error why => (.error why, r) := by
  cases setter with
  | text | value | int => rfl
  | double value leading decimals => exact apply_setDouble index value leading decimals r
  | degrees value =>
    rw [edit, Edit.setDegrees, rendered]
    split
    · exact apply_setDouble index value 3 1 r
    · rfl

theorem apply_edit_of_rendered (h : setter.rendered index = .ok text) :
    (setter.edit index).apply r = (Edit.setField index text).apply r := by
  rw [apply_edit, h]

/-- What a setter of one field does to a record: it writes the text that it renders into the field,
and touches nothing else, or it fails and touches nothing at all. -/
structure IsExact (setter : FieldSetter) (index : Nat) (r : Record) : Prop where
  /-- One field is different, or nothing is. -/
  writes_or_fails : (∃ text s, setter.rendered index = .ok text ∧
      (setter.edit index).apply r = (.ok (), s) ∧ s.fields[index]? = some text ∧
        r.SameBut [index] s) ∨
    ∃ why, (setter.edit index).apply r = (.error why, r)
  /-- A text is written if the field is there and the framing is safe from its characters. -/
  ok_iff : ∀ text, setter.rendered index = .ok text →
    ((∃ s, (setter.edit index).apply r = (.ok (), s)) ↔ index < r.count ∧ IsFramingSafe text)
  /-- A text with another character is reported whether or not the field is there. -/
  invalidFieldValue : ∀ text, setter.rendered index = .ok text → ¬ IsFramingSafe text →
    (setter.edit index).apply r = (.error (.invalidFieldValue index text), r)
  /-- The field is looked for last. -/
  indexOutOfRange : ∀ text, setter.rendered index = .ok text → IsFramingSafe text →
    r.count ≤ index → (setter.edit index).apply r = (.error (.indexOutOfRange index r.count), r)
  /-- What is wrong with the value is reported first. -/
  refused : ∀ why, setter.rendered index = .error why →
    (setter.edit index).apply r = (.error why, r)

theorem isExact (setter : FieldSetter) (index : Nat) (r : Record) : setter.IsExact index r where
  writes_or_fails := by
    cases rendered : setter.rendered index with
    | error why => exact .inr ⟨why, by rw [apply_edit, rendered]⟩
    | ok text =>
      rw [apply_edit_of_rendered rendered]
      match applied : (Edit.setField index text).apply r with
      | (.ok (), s) =>
        have same := Edit.keeps_sameBut_setField r List.mem_cons_self text r (.refl [index] r)
        rw [applied] at same
        exact .inl ⟨text, s, rfl, rfl, Edit.getElem?_of_apply_setField applied, same⟩
      | (.error why, s) =>
        obtain rfl := Edit.atomic_setField index text r why s applied
        exact .inr ⟨why, rfl⟩
  ok_iff text h := by
    rw [apply_edit_of_rendered h, ← isFieldText_iff]
    simp [Edit.apply_setField_eq_ok_iff, and_comm]
  invalidFieldValue text h unfit := by
    rw [← isFieldText_iff] at unfit
    rw [apply_edit_of_rendered h, Edit.apply_setField, if_neg unfit]
  indexOutOfRange text h fit missing := by
    rw [← isFieldText_iff] at fit
    rw [apply_edit_of_rendered h, Edit.apply_setField, if_pos fit, if_neg (Nat.not_lt.mpr missing),
      Record.outOfRange]
  refused why h := by
    rw [apply_edit, h]

end FieldSetter

/-! ### All setters of one step -/

namespace Record

/-- Every setter of one step changes one thing of a record, or nothing if it fails. -/
structure ChangesOneThing (r : Record) : Prop where
  /-- The text of one field. -/
  field : ∀ (setter : FieldSetter) (index : Nat), setter.IsExact index r
  /-- The talker, or nothing. -/
  talker : ∀ talker : Talker,
    (Edit.setTalker talker).apply r = (.ok (), { r with talker }) ∨
      (Edit.setTalker talker).apply r = (.error (.invalidAddress (addressOf talker r.id)), r)
  /-- The talker changes if its code makes an address with the sentence id. -/
  talker_ok_iff : ∀ talker : Talker, (∃ s, (Edit.setTalker talker).apply r = (.ok (), s)) ↔
    (3 ≤ (talker.text ++ r.id).length ∧ (talker.text ++ r.id).length ≤ 10) ∧
      ∀ c ∈ talker.text ++ r.id, ('A' ≤ c ∧ c ≤ 'Z') ∨ ('0' ≤ c ∧ c ≤ '9')

theorem changesOneThing (r : Record) : r.ChangesOneThing where
  field setter index := setter.isExact index r
  talker talker := by
    rw [Edit.apply_setTalker]
    split
    · exact .inl rfl
    · exact .inr rfl
  talker_ok_iff talker := by
    rw [Edit.apply_setTalker, isAddressPair_eq, addressOf, ← isAddress_iff]
    split
    · next address => simp [address]
    · next address => simp [address]

end Record

end Nmea

import Mathlib.Control.Monad.Basic
import Nmea.Fragment
import Nmea.Proofs.Record.Atomic
import Nmea.View.Course

/-!
# Setters of several fields

A position, a speed in two units, a fragment and a list of waypoints take more than one edit of the
record. Such a setter is its edits in a row, each of which happens as a whole or not at all
(`CompositeSetter.edit_eq_inOrder`), but the setter itself may stop half way: a failure takes back
nothing of what the edits before it have made (`CompositeSetter.apply_edit_eq_error`).
-/

namespace Nmea

/-- The setters that take several edits. -/
inductive CompositeSetter
  | latitude (index hemisphere : Nat) (value : Double)
  | longitude (index hemisphere : Nat) (value : Double)
  | positionGGA (north east : Double)
  | positionGLL (north east : Double)
  | speedKnots (knots : Double)
  | fragment (header : FragmentHeader) (payload : Text) (fillBits : UInt8)
  | waypointIds (ids : List Text)

namespace CompositeSetter

/-- What a setter does. -/
def edit : CompositeSetter → Edit Unit
  | latitude index hemisphere value  => Edit.setLatitude index hemisphere value
  | longitude index hemisphere value => Edit.setLongitude index hemisphere value
  | positionGGA north east           => GGA.setPosition north east
  | positionGLL north east           => GLL.setPosition north east
  | speedKnots knots                 => VTG.setSpeedKnots knots
  | fragment header payload fillBits => Edit.setFragment header payload fillBits
  | waypointIds ids                  => RTE.setWaypointIds ids

/-- The edits of a coordinate. -/
def coordinateSteps (axis : Record.Axis) (index hemisphere : Nat) (value : Double) :
    List (Edit Unit) :=
  [Edit.check (Record.checkRange value axis.limit),
    Edit.setField index (formatDegrees axis.width value),
    Edit.setValue hemisphere (if value.lt (.ofNat 0) then axis.negative else axis.positive)]

/-- The edits that a setter takes. -/
def steps : CompositeSetter → List (Edit Unit)
  | latitude index hemisphere value  => coordinateSteps .latitude index hemisphere value
  | longitude index hemisphere value => coordinateSteps .longitude index hemisphere value
  | positionGGA north east           =>
    coordinateSteps .latitude 1 2 north ++ coordinateSteps .longitude 3 4 east
  | positionGLL north east           =>
    coordinateSteps .latitude 0 1 north ++ coordinateSteps .longitude 2 3 east
  | speedKnots knots                 =>
    [Edit.setDouble 4 knots 1 1, Edit.setDouble 6 (knots * VTG.kilometers) 1 1]
  | fragment header payload fillBits =>
    [Edit.setValue 0 header.count, Edit.setValue 1 header.index,
      Edit.setField 2 (header.messageId.getD []), Edit.setField 3 (header.channel.getD []),
      Edit.setField 4 payload, Edit.setValue 5 fillBits]
  | waypointIds ids                  =>
    [Edit.fillUp RTE.firstWaypoint, Edit.setValues RTE.firstWaypoint ids]

/-- The fields that a setter may have written before it fails. -/
def exposed : CompositeSetter → List Nat
  | latitude index _ _  => [index]
  | longitude index _ _ => [index]
  | positionGGA _ _     => [1, 2, 3]
  | positionGLL _ _     => [0, 1, 2]
  | speedKnots _        => [4]
  | fragment _ _ _      => [0, 1, 2, 3, 4]
  | waypointIds _       => []

/-- The number of fields that a setter fills up to before it writes any. -/
def leastCount : CompositeSetter → Nat
  | waypointIds _ => RTE.firstWaypoint
  | _             => 0

/-! ### Setters as edits in a row -/

theorem setCoordinate_eq_inOrder (axis : Record.Axis) (index hemisphere : Nat) (value : Double) :
    Edit.setCoordinate axis index hemisphere value =
      Edit.inOrder (coordinateSteps axis index hemisphere value) := by
  simp [Edit.setCoordinate, coordinateSteps, Edit.inOrder]

theorem edit_eq_inOrder (c : CompositeSetter) : c.edit = Edit.inOrder c.steps := by
  cases c with
  | latitude => exact setCoordinate_eq_inOrder ..
  | longitude => exact setCoordinate_eq_inOrder ..
  | positionGGA =>
    rw [steps, Edit.inOrder_append, ← setCoordinate_eq_inOrder, ← setCoordinate_eq_inOrder]
    rfl
  | positionGLL =>
    rw [steps, Edit.inOrder_append, ← setCoordinate_eq_inOrder, ← setCoordinate_eq_inOrder]
    rfl
  | speedKnots => simp [edit, VTG.setSpeedKnots, steps, Edit.inOrder]
  | fragment => simp [edit, Edit.setFragment, steps, Edit.inOrder]
  | waypointIds ids =>
    simp only [edit, RTE.setWaypointIds, steps, Edit.inOrder, Edit.fillUp, bind_assoc,
      bind_pure_unit]
    refine bind_congr fun r => ?_
    split
    · rfl
    · rw [pure_bind]

theorem atomic_steps (c : CompositeSetter) : ∀ e ∈ c.steps, e.Atomic := by
  cases c <;> simp [steps, coordinateSteps]

end CompositeSetter

/-! ### What a failure leaves behind -/

namespace CompositeSetter

variable {c : CompositeSetter} {r s : Record} {why : Error}

/-- The last edit apart, which does nothing if it fails, a setter writes its exposed fields. -/
theorem keeps_sameBut_of_mem_dropLast (r : Record) (hc : ∀ ids, c ≠ waypointIds ids) :
    ∀ e ∈ c.steps.dropLast, Edit.Keeps (r.SameBut c.exposed) e := by
  cases c with
  | waypointIds ids => exact absurd rfl (hc ids)
  | _ =>
    simp [steps, coordinateSteps, exposed, Edit.keeps_sameBut_setField,
      Edit.keeps_sameBut_setDouble, Edit.keeps_check, Edit.setValue]

theorem sameBut_of_before {before after : List (Edit Unit)} {step : Edit Unit}
    (hc : ∀ ids, c ≠ waypointIds ids) (e : c.steps = before ++ step :: after)
    (hb : (Edit.inOrder before).apply r = (.ok (), s)) : r.SameBut c.exposed s := by
  have keeps : Edit.Keeps (r.SameBut c.exposed) (Edit.inOrder before) := by
    refine Edit.keeps_inOrder fun edit he => keeps_sameBut_of_mem_dropLast r hc edit ?_
    rw [e, List.dropLast_append_of_ne_nil (List.cons_ne_nil _ _)]
    exact List.mem_append_left _ he
  have same := keeps r (.refl _ r)
  rwa [hb] at same

/-- Filling up does not fail, so that only the waypoints can have been refused. -/
theorem eq_filledUp_of_before {ids : List Text} {before after : List (Edit Unit)}
    {step : Edit Unit} (e : (waypointIds ids).steps = before ++ step :: after)
    (hb : (Edit.inOrder before).apply r = (.ok (), s)) (hs : step.apply s = (.error why, s)) :
    s = r.filledUp RTE.firstWaypoint := by
  match before, e with
  | [], e =>
    -- filling up would be the edit that failed
    cases e
    rw [Edit.apply_fillUp] at hs
    cases hs
  | [first], e =>
    cases e
    rw [Edit.inOrder, Edit.apply_bind, Edit.apply_fillUp] at hb
    cases hb
    rfl
  | first :: second :: rest, e =>
    simp [steps] at e

/-- A setter that fails leaves behind what its edits before the failing one have made, and that one
has made nothing. The record is therefore as it was, filled up for a list of waypoints, but for the
fields that are written before the last edit. -/
theorem apply_edit_eq_error (h : c.edit.apply r = (.error why, s)) :
    (∃ before step after, c.steps = before ++ step :: after ∧
      (Edit.inOrder before).apply r = (.ok (), s) ∧ step.apply s = (.error why, s)) ∧
    (r.filledUp c.leastCount).SameBut c.exposed s := by
  rw [edit_eq_inOrder] at h
  obtain ⟨before, step, after, e, hb, hs⟩ := Edit.exists_of_apply_inOrder c.atomic_steps h
  refine ⟨⟨before, step, after, e, hb, hs⟩, ?_⟩
  cases c with
  | waypointIds ids =>
    rw [eq_filledUp_of_before e hb hs]
    exact ⟨rfl, rfl, rfl, rfl, fun _ _ => rfl⟩
  | _ =>
    show (r.filledUp 0).SameBut _ s
    rw [Record.filledUp_zero]
    exact sameBut_of_before (fun _ => nofun) e hb

/-- A position whose longitude is out of range gets the new latitude beside the old longitude. -/
theorem apply_edit_eq_error_longitude :
    let c := positionGGA (.ofNat 10) (.ofNat 200)
    let r := Record.blank .standard (.named .GP) "GGA".toList 14
    let s := { r with fields := (r.fields.set 1 "1000.000".toList).set 2 ['N'] }
    c.edit.apply r = (.error (.valueOutOfRange (.ofNat 200) (-.ofNat 180) (.ofNat 180)), s) ∧
      (∃ before step after, c.steps = before ++ step :: after ∧
        (Edit.inOrder before).apply r = (.ok (), s) ∧ step.apply s =
          (.error (.valueOutOfRange (.ofNat 200) (-.ofNat 180) (.ofNat 180)), s)) ∧
      (r.filledUp 0).SameBut [1, 2, 3] s := by
  intro c r s
  have failed : c.edit.apply r =
      (.error (.valueOutOfRange (.ofNat 200) (-.ofNat 180) (.ofNat 180)), s) := by
    decide +kernel
  exact ⟨failed, apply_edit_eq_error failed⟩

/-- A latitude without a field for its hemisphere is written all the same, so that a failing setter
does not leave every record as it was. -/
theorem not_atomic_edit : ¬ ∀ c : CompositeSetter, c.edit.Atomic := by
  intro atomic
  let r := Record.blank .standard (.named .GP) "GLL".toList 1
  have failed : (latitude 0 1 (.ofNat 10)).edit.apply r =
      (.error (.indexOutOfRange 1 1), { r with fields := ["1000.000".toList] }) := by
    decide +kernel
  have same : { r with fields := ["1000.000".toList] } = r := atomic _ _ _ _ failed
  exact absurd same (by decide)

end CompositeSetter

end Nmea

import Nmea.Kind.Builtin
import Nmea.Proofs.Kind.Sentence
import Nmea.Proofs.Record.Tail
import Nmea.Proofs.View.Composite

/-!
# Waypoints of a route

The waypoints of a route stand behind four fields, which are filled up first if there are fewer of
them. What is left of the old sentence is then its head alone, so that the new sentence is told by
the head and the new waypoints (`RTE.apply_setWaypointIds_eq_ok`): there are no stale waypoints, the
head does not move, and replacing the waypoints twice is replacing them once
(`RTE.exists_isRouted`).
-/

namespace Nmea.RTE

variable {r s : Record} {ids others : List Text} {index : Nat}

/-! ### The head of a route -/

/-- The fields before the waypoints, with empty ones in place of those that are missing. -/
def head (r : Record) : List Text := (r.filledUp firstWaypoint).fields.take firstWaypoint

/-- A record with other waypoints behind its head. -/
def withWaypointIds (r : Record) (ids : List Text) : Record := { r with fields := head r ++ ids }

theorem firstWaypoint_le_count_filledUp (r : Record) :
    firstWaypoint ≤ (r.filledUp firstWaypoint).count := by
  simp only [Record.count, Record.filledUp, List.length_append, List.length_replicate]
  omega

theorem length_head (r : Record) : (head r).length = firstWaypoint :=
  List.length_take_of_le (firstWaypoint_le_count_filledUp r)

/-- A field of the head holds what it held, and nothing if it was not there. -/
theorem getElem?_head (h : index < firstWaypoint) :
    (head r)[index]? = some (r.fields.getD index []) := by
  rw [head, List.getElem?_take_of_lt h, Record.filledUp, List.getD_eq_getElem?_getD]
  by_cases there : index < r.count
  · rw [List.getElem?_append_left there, List.getElem?_eq_getElem there, Option.getD_some]
  · have behind : r.fields.length ≤ index := Nat.not_lt.mp there
    rw [List.getElem?_append_right behind, List.getElem?_replicate, List.getElem?_eq_none behind,
      if_pos, Option.getD_none]
    simp only [Record.count]
    omega

/-- The head is not told by what stands behind it. -/
theorem head_withWaypointIds (r : Record) (ids : List Text) :
    head (withWaypointIds r ids) = head r := by
  have enough : firstWaypoint ≤ (withWaypointIds r ids).count := by
    rw [Record.count, withWaypointIds, List.length_append, length_head]
    exact Nat.le_add_right _ _
  rw [head, Record.filledUp, Nat.sub_eq_zero_of_le enough, List.replicate_zero, List.append_nil]
  exact List.take_left' (length_head r)

theorem withWaypointIds_withWaypointIds (r : Record) (ids others : List Text) :
    withWaypointIds (withWaypointIds r ids) others = withWaypointIds r others := by
  rw [withWaypointIds, head_withWaypointIds]
  rfl

theorem waypointIds_withWaypointIds (r : Record) (ids : List Text) :
    waypointIds (withWaypointIds r ids) = ids.filter (!·.isEmpty) := by
  rw [waypointIds, withWaypointIds, List.drop_left' (length_head r)]

/-! ### Replacing the waypoints -/

/-- The tail is replaced after the head was filled up. -/
theorem apply_setWaypointIds (ids : List Text) (r : Record) : (setWaypointIds ids).apply r =
    (Edit.setValues firstWaypoint ids).apply (r.filledUp firstWaypoint) := by
  have inOrder : setWaypointIds ids = Edit.inOrder
      [Edit.fillUp firstWaypoint, Edit.setValues firstWaypoint ids] :=
    CompositeSetter.edit_eq_inOrder (.waypointIds ids)
  rw [inOrder, Edit.inOrder, Edit.inOrder, Edit.inOrder, bind_pure_unit, Edit.apply_bind,
    Edit.apply_fillUp]

/-- The head stays, and the waypoints are the new ones. -/
theorem apply_setWaypointIds_eq_ok (fit : ∀ id ∈ ids, isFieldText id = true) (r : Record) :
    (setWaypointIds ids).apply r = (.ok (), withWaypointIds r ids) := by
  have ne_nil : (r.filledUp firstWaypoint).fields.take firstWaypoint ++ ids ≠ [] := by
    refine List.append_ne_nil_of_left_ne_nil (List.ne_nil_of_length_pos ?_) ids
    rw [← head, length_head]
    decide
  rw [apply_setWaypointIds, Edit.apply_setValues_eq_ok_iff]
  refine ⟨firstWaypoint_le_count_filledUp r, fit, ?_⟩
  rw [Edit.nonempty_eq_ite, if_neg ne_nil]
  rfl

theorem keeps_wellFormed_setWaypointIds (ids : List Text) :
    Edit.Keeps Record.WellFormed (setWaypointIds ids) := by
  refine Edit.Keeps.bind (fun _ h => h) fun r => ?_
  split
  · exact (Edit.keeps_wellFormed_resize _).bind fun _ => Edit.keeps_wellFormed_setValues _ _
  · exact Edit.keeps_wellFormed_setValues firstWaypoint ids

/-! ### Routes -/

/-- A record that was `r` before its waypoints were replaced. -/
structure IsRouted (r : Record) (ids : List Text) (s : Record) : Prop where
  opening_eq : s.opening = r.opening
  talker_eq : s.talker = r.talker
  id_eq : s.id = r.id
  /-- The four fields in front hold what they held, or nothing where there were fewer. -/
  field_eq : ∀ index < 4, s.fields[index]? = some (r.fields.getD index [])
  /-- There is a field for each waypoint, the empty ones included, and no other. -/
  count_eq : s.count = 4 + ids.length
  drop_eq : s.fields.drop 4 = ids
  waypointIds_eq : waypointIds s = ids.filter (· ≠ [])

theorem isRouted_withWaypointIds (r : Record) (ids : List Text) :
    IsRouted r ids (withWaypointIds r ids) where
  opening_eq := rfl
  talker_eq := rfl
  id_eq := rfl
  field_eq index h := by
    have inHead : index < (head r).length := (length_head r).symm ▸ h
    rw [withWaypointIds, List.getElem?_append_left inHead]
    exact getElem?_head h
  count_eq := by
    rw [Record.count, withWaypointIds, List.length_append, length_head, firstWaypoint]
  drop_eq := List.drop_left' (length_head r)
  waypointIds_eq := by
    rw [waypointIds_withWaypointIds]
    refine List.filter_congr fun id _ => ?_
    cases id <;> rfl

/-- Waypoints that the framing is safe from are written into every record, however many fields it
has. The sentence of a route is then read again from its line, with the same waypoints, and other
waypoints that are written over them leave no trace of them. -/
theorem exists_isRouted (safe : ∀ id ∈ ids, IsFramingSafe id) (r : Record) :
    ∃ s, (setWaypointIds ids).apply r = (.ok (), s) ∧ IsRouted r ids s ∧
      (r.WellFormed → r.id = Kind.rte.id → ∀ ending,
        (Kind.rte.parse ((Sentence.mk .rte s).toText ++ Terminator.endText ending)).value =
          .ok ⟨.rte, s⟩) ∧
      ∀ others, (∀ id ∈ others, IsFramingSafe id) →
        (setWaypointIds others).apply s = (setWaypointIds others).apply r := by
  simp only [← isFieldText_iff] at safe ⊢
  refine ⟨withWaypointIds r ids, apply_setWaypointIds_eq_ok safe r, isRouted_withWaypointIds r ids,
    ?_, ?_⟩
  · intro wf id ending
    have kept := keeps_wellFormed_setWaypointIds ids r wf
    rw [apply_setWaypointIds_eq_ok safe] at kept
    exact Kind.value_parse_toText kept id ending
  · intro others fit
    rw [apply_setWaypointIds_eq_ok fit, apply_setWaypointIds_eq_ok fit,
      withWaypointIds_withWaypointIds]

/-- A sentence of two fields, an empty waypoint between two others, and a shorter route after it. -/
theorem exists_isRouted_short :
    let r : Record := ⟨.standard, .named .GP, "RTE".toList, ["2".toList, "1".toList]⟩
    let ids := ["PBRTO".toList, [], "P 1".toList]
    let s : Record :=
      { r with fields := ["2".toList, "1".toList, [], [], "PBRTO".toList, [], "P 1".toList] }
    (Kind.rte.parse "$GPRTE,2,1".toList).value = .ok ⟨.rte, r⟩ ∧
      (∀ id ∈ ids, IsFramingSafe id) ∧ (setWaypointIds ids).apply r = (.ok (), s) ∧
      waypointIds s = ["PBRTO".toList, "P 1".toList] ∧
      (Kind.rte.parse (s.toText ++ ['\n'])).value = .ok ⟨.rte, s⟩ ∧
      (setWaypointIds [['A']]).apply s = (setWaypointIds [['A']]).apply r := by
  intro r ids s
  have read : (Record.parse "$GPRTE,2,1".toList).value = .ok r := by rfl
  have wf : r.WellFormed := Record.wellFormed_of_parseWith read
  have safe : ∀ id ∈ ids, IsFramingSafe id := by
    simp only [← isFieldText_iff]
    decide
  have written : (setWaypointIds ids).apply r = (.ok (), s) := by decide +kernel
  obtain ⟨s', written', routed, back, again⟩ := exists_isRouted safe r
  obtain rfl : s' = s := (Prod.ext_iff.mp (written'.symm.trans written)).2
  refine ⟨Kind.value_parse read rfl, safe, written, routed.waypointIds_eq, ?_, ?_⟩
  · exact back wf rfl (some .lf)
  · exact again [['A']] (by simp only [← isFieldText_iff]; decide)

end Nmea.RTE

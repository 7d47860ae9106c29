import Culprit.Proofs.Json.Strings

/-!
# Documents that are too deep

A reader stops at the first array or object that stands deeper than it has room for, whatever comes
after it. The simplest such document opens arrays only.
-/

namespace Culprit.Json

/-- By induction on the room: an array that is opened in another one has one place less. -/
theorem readValue_replicate (room : Nat) {fuel : Nat} (hfuel : 2 * room < fuel) (offset : Nat)
    (rest : Text) :
    readValue room fuel ⟨offset, List.replicate (room + 1) '[' ++ rest⟩ =
      .error (.tooDeep true) := by
  induction room generalizing fuel offset with
  | zero =>
    obtain ⟨more, rfl⟩ := Nat.exists_eq_add_one_of_ne_zero (by omega : fuel ≠ 0)
    simp [readValue]
  | succ room ih =>
    obtain ⟨more, rfl⟩ : ∃ more, fuel = more + 2 := ⟨fuel - 2, by omega⟩
    have hinner := ih (show 2 * room < more by omega) (offset + 1)
    rw [List.replicate_succ, List.cons_append] at hinner
    have hinside : (Cursor.mk offset ('[' :: '[' :: (List.replicate room '[' ++ rest))).advance 1 =
        ⟨offset + 1, '[' :: (List.replicate room '[' ++ rest)⟩ := rfl
    have hstart := Cursor.skipBlank_cons (c := '[') (by decide) (offset + 1)
      (List.replicate room '[' ++ rest)
    rw [List.replicate_succ, List.replicate_succ, List.cons_append, List.cons_append]
    simp only [readValue, hinside, hstart, readItems, hinner]
    rfl

/-- **A document that opens more arrays than there is room for is refused as too deep.** -/
theorem readDocument_replicate {room count : Nat} (hroom : room < count) :
    readDocument room (Utf8.encode (List.replicate count '[')) =
      .error (.unreadable (List.replicate count '[') (.tooDeep true)) := by
  obtain ⟨more, rfl⟩ := Nat.exists_eq_add_of_lt hroom
  have hbyte : Utf8.encodeChar '[' = [0x5B] := rfl
  have hdecode : Encoding.decode (Utf8.encode (List.replicate (room + more + 1) '[')) =
      .ok (List.replicate (room + more + 1) '[') := by
    refine decode_encode fun byte hmem => ?_
    obtain ⟨c, hc, hbytes⟩ := List.mem_flatMap.mp (List.mem_of_mem_take hmem)
    rw [(List.mem_replicate.mp hc).2, hbyte, List.mem_singleton] at hbytes
    simp [hbytes]
  have hstart : Cursor.skipBlank ⟨0, List.replicate (room + more + 1) '['⟩ =
      ⟨0, List.replicate (room + 1) '[' ++ List.replicate more '['⟩ := by
    rw [List.replicate_succ, Cursor.skipBlank_cons (by decide), ← List.replicate_succ,
      List.replicate_append_replicate, Nat.add_right_comm]
  have hfuel : 2 * room < 2 * (room + more + 1) + 2 := by omega
  have hread := readValue_replicate room hfuel 0 (List.replicate more '[')
  rw [readDocument, hdecode]
  simp only [readWithin, List.length_replicate, hstart, hread]
  rfl

end Culprit.Json

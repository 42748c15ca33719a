/-!
# Computations that succeed

A computation in steps succeeds exactly when each of its steps does. Later proofs take the steps
of an operation apart with these equivalences.
-/
namespace Labeling.Except

variable {ε α β : Type}

/-- A computation that succeeds does so in its parts. -/
theorem bind_eq_ok {first : Except ε α} {next : α → Except ε β} {value : β} :
    first >>= next = .ok value ↔ ∃ middle, first = .ok middle ∧ next middle = .ok value := by
  cases first <;> simp [bind, Except.bind]

/-- A changed value comes from a success. -/
theorem map_eq_ok {first : Except ε α} {change : α → β} {value : β} :
    first.map change = .ok value ↔ ∃ middle, first = .ok middle ∧ change middle = value := by
  cases first <;> simp [Except.map]

/-- Every value of a successful list comes from a success. -/
theorem exists_of_mem_mapM {read : α → Except ε β} {contents : List α} {values : List β}
    (done : contents.mapM read = .ok values) {value : β} (member : value ∈ values) :
    ∃ content ∈ contents, read content = .ok value := by
  induction contents generalizing values with
  | nil =>
    cases done
    contradiction
  | cons content rest hypothesis =>
    rw [List.mapM_cons, bind_eq_ok] at done
    obtain ⟨first, found, done⟩ := done
    rw [bind_eq_ok] at done
    obtain ⟨others, restDone, made⟩ := done
    cases made
    rcases List.mem_cons.mp member with same | later
    · exact ⟨content, List.mem_cons_self, same ▸ found⟩
    · obtain ⟨other, inside, read⟩ := hypothesis restDone later
      exact ⟨other, List.mem_cons_of_mem _ inside, read⟩

/-- Every member of a list that succeeds does so by itself. -/
theorem exists_of_mapM {read : α → Except ε β} {contents : List α} {values : List β}
    (done : contents.mapM read = .ok values) {content : α} (member : content ∈ contents) :
    ∃ value, read content = .ok value := by
  induction contents generalizing values with
  | nil => contradiction
  | cons first rest hypothesis =>
    rw [List.mapM_cons, bind_eq_ok] at done
    obtain ⟨value, found, done⟩ := done
    rw [bind_eq_ok] at done
    obtain ⟨others, restDone, -⟩ := done
    rcases List.mem_cons.mp member with same | later
    · exact ⟨value, same ▸ found⟩
    · exact hypothesis restDone later

end Labeling.Except

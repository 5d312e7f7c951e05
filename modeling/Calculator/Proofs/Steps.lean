/-!
# Steps that may fail

A computation whose steps may fail is a chain: the first failure is final, and a chain that ends
well has gone well at every step. Taking the same step for every member of a list fails exactly
when one of the steps does, and for the first of them.
-/

namespace Calculator

variable {ε α β : Type} {step : α → Except ε β} {error : ε}

/-- A chain ends well only if its first step does, and goes on from what this step gives. -/
theorem bind_eq_ok {result : Except ε α} {following : α → Except ε β} {value : β}
    (h : result >>= following = .ok value) :
    ∃ first, result = .ok first ∧ following first = .ok value := by
  cases result with
  | error error => cases h
  | ok first => exact ⟨first, rfl, h⟩

/-- A chain fails at its first step or, if this goes well, after it. -/
theorem bind_eq_error_iff {result : Except ε α} {following : α → Except ε β} :
    result >>= following = .error error ↔
      result = .error error ∨ ∃ first, result = .ok first ∧ following first = .error error := by
  constructor
  · intro h
    cases result with
    | error cause =>
      obtain rfl := Except.error.inj h
      exact .inl rfl
    | ok first => exact .inr ⟨first, rfl, h⟩
  · rintro (rfl | ⟨first, rfl, failure⟩)
    · rfl
    · exact failure

/-- A list is worked through when every step goes well. -/
theorem exists_mapM_eq_ok {members : List α}
    (h : ∀ member ∈ members, ∃ value, step member = .ok value) :
    ∃ values, members.mapM step = .ok values := by
  induction members with
  | nil => exact ⟨[], rfl⟩
  | cons member members ih =>
    obtain ⟨value, first⟩ := h member List.mem_cons_self
    obtain ⟨values, others⟩ := ih fun other inside => h other (List.mem_cons_of_mem member inside)
    refine ⟨value :: values, ?_⟩
    rw [List.mapM_cons, first, others]
    rfl

/-- A list is worked through member by member. -/
theorem mapM_cons_eq_ok {member : α} {members : List α} {values : List β}
    (h : (member :: members).mapM step = .ok values) :
    ∃ value others, step member = .ok value ∧ members.mapM step = .ok others ∧
      values = value :: others := by
  rw [List.mapM_cons] at h
  obtain ⟨value, first, rest⟩ := bind_eq_ok h
  obtain ⟨others, done, last⟩ := bind_eq_ok rest
  exact ⟨value, others, first, done, (Except.ok.inj last).symm⟩

/-- Work on a list fails for the first member whose step does. -/
theorem mapM_eq_error_iff {members : List α} :
    members.mapM step = .error error ↔
      ∃ before member after, members = before ++ member :: after ∧
        (∀ earlier ∈ before, ∃ value, step earlier = .ok value) ∧ step member = .error error := by
  constructor
  · intro h
    induction members with
    | nil => cases h
    | cons member members ih =>
      rw [List.mapM_cons] at h
      cases first : step member with
      | error cause =>
        rw [first] at h
        obtain rfl := Except.error.inj h
        exact ⟨[], member, members, rfl, by simp, first⟩
      | ok value =>
        rw [first] at h
        cases rest : members.mapM step with
        | ok values =>
          rw [rest] at h
          cases h
        | error cause =>
          rw [rest] at h
          obtain rfl := Except.error.inj h
          obtain ⟨before, failing, after, rfl, well, failure⟩ := ih rest
          refine ⟨member :: before, failing, after, rfl, fun earlier inside => ?_, failure⟩
          rcases List.mem_cons.mp inside with rfl | inside
          · exact ⟨value, first⟩
          · exact well earlier inside
  · rintro ⟨before, failing, after, rfl, well, failure⟩
    obtain ⟨values, done⟩ := exists_mapM_eq_ok well
    rw [List.mapM_append, done, List.mapM_cons, failure]
    rfl

end Calculator

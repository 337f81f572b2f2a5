/-!
# Steps in a row

Steps that may fail succeed together exactly if each of them does, the later ones with
what the earlier ones gave; otherwise the first fault is that of all.  Telling a fault in
other words makes no difference to that.
-/

namespace TagSelection

theorem bind_eq_ok_iff {Fault First Second : Type} (first : Except Fault First)
    (next : First → Except Fault Second) (result : Second) :
    (first >>= next) = .ok result ↔
      ∃ middle, first = .ok middle ∧ next middle = .ok result := by
  cases first with
  | error fault =>
      constructor
      · intro impossible
        cases impossible
      · rintro ⟨_, impossible, _⟩
        cases impossible
  | ok value =>
      constructor
      · intro reached
        exact ⟨value, rfl, reached⟩
      · rintro ⟨_, equality, reached⟩
        cases equality
        exact reached

theorem bind_eq_error_iff {Fault First Second : Type} (first : Except Fault First)
    (next : First → Except Fault Second) (fault : Fault) :
    (first >>= next) = .error fault ↔
      first = .error fault ∨ ∃ middle, first = .ok middle ∧ next middle = .error fault := by
  cases first with
  | error cause =>
      change Except.error cause = Except.error fault ↔ _
      simp
  | ok value =>
      change next value = Except.error fault ↔ _
      simp

theorem mapError_eq_ok_iff {First Second Result : Type} (translate : First → Second)
    (attempt : Except First Result) (result : Result) :
    attempt.mapError translate = .ok result ↔ attempt = .ok result := by
  cases attempt with
  | error fault =>
      constructor
      · intro impossible
        cases impossible
      · intro impossible
        cases impossible
  | ok value =>
      constructor
      · intro reached
        cases reached
        rfl
      · intro reached
        cases reached
        rfl

theorem mapError_eq_error_iff {First Second Result : Type} (translate : First → Second)
    (attempt : Except First Result) (fault : Second) :
    attempt.mapError translate = .error fault ↔
      ∃ cause, attempt = .error cause ∧ fault = translate cause := by
  cases attempt with
  | error cause =>
      change Except.error (translate cause) = Except.error fault ↔ _
      simp [eq_comm]
  | ok value =>
      change Except.ok value = Except.error fault ↔ _
      simp

theorem mapError_bind {First Second Value Result : Type} (translate : First → Second)
    (attempt : Except First Value) (next : Value → Except First Result) :
    (attempt >>= next).mapError translate =
      attempt.mapError translate >>= fun value => (next value).mapError translate := by
  cases attempt <;> rfl

end TagSelection

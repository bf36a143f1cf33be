import Mathlib.Data.List.Forall2

/-!
# Computations that may fail

A computation with several steps succeeds when each of its steps does, one after the other, and a
step for each item of a list succeeds on the list when it does on every item.

Results:
* `bind_eq_ok_iff`, `exists_bind_iff`: two steps.
* `exists_mapError_iff`: a change of the fault.
* `mapM_eq_ok_iff`, `exists_mapM`: a step for each item of a list.
* `fault?_eq_some_iff`, `fault?_bind_of_ok`, `fault?_mapM`: the fault with which a computation ends.
* `FaultsAre.bind`, `FaultsAre.mapM`: a condition on the faults with which a computation can end.
* `exists_zip`, `forall_of_zip_left`, `forall_of_zip_right`: two lists side by side.
-/

namespace TermSheet

theorem ok_bind {ε α β : Type} (a : α) (f : α → Except ε β) : Except.ok a >>= f = f a := rfl

theorem error_bind {ε α β : Type} (fault : ε) (f : α → Except ε β) :
    Except.error fault >>= f = .error fault := rfl

theorem bind_eq_ok_iff {ε α β : Type} {x : Except ε α} {f : α → Except ε β} {b : β} :
    x >>= f = .ok b ↔ ∃ a, x = .ok a ∧ f a = .ok b := by
  cases x <;> simp [bind, Except.bind]

/-- A step that cannot fail does not decide. -/
theorem bind_pure_eq_ok_iff {ε α β : Type} {x : Except ε α} {f : α → β} {b : β} :
    (x >>= fun a => pure (f a)) = .ok b ↔ ∃ a, x = .ok a ∧ b = f a := by
  cases x <;> simp [bind, Except.bind, pure, Except.pure, eq_comm]

theorem exists_bind_iff {ε α β : Type} {x : Except ε α} {f : α → Except ε β} :
    (∃ b, x >>= f = .ok b) ↔ ∃ a, x = .ok a ∧ ∃ b, f a = .ok b := by
  simp only [bind_eq_ok_iff]
  exact ⟨fun ⟨b, a, ha, hb⟩ => ⟨a, ha, b, hb⟩, fun ⟨a, ha, b, hb⟩ => ⟨b, a, ha, hb⟩⟩

theorem exists_pure_iff {ε α : Type} {a : α} : (∃ b, (pure a : Except ε α) = .ok b) ↔ True :=
  ⟨fun _ => trivial, fun _ => ⟨a, rfl⟩⟩

theorem exists_mapError_iff {ε δ α : Type} {x : Except ε α} {f : ε → δ} :
    (∃ a, x.mapError f = .ok a) ↔ ∃ a, x = .ok a := by
  cases x <;> simp [Except.mapError]

theorem mapError_eq_ok_iff {ε δ α : Type} {x : Except ε α} {f : ε → δ} {a : α} :
    x.mapError f = .ok a ↔ x = .ok a := by
  cases x <;> simp [Except.mapError]

theorem mapM_eq_ok_iff {ε α β : Type} {f : α → Except ε β} {xs : List α} {ys : List β} :
    xs.mapM f = .ok ys ↔ List.Forall₂ (fun x y => f x = .ok y) xs ys := by
  induction xs generalizing ys with
  | nil =>
    rw [List.mapM_nil, List.forall₂_nil_left_iff]
    exact ⟨fun h => by cases h; rfl, fun h => by rw [h]; rfl⟩
  | cons x xs ih =>
    rw [List.mapM_cons, bind_eq_ok_iff, List.forall₂_cons_left_iff]
    constructor
    · rintro ⟨y, hy, rest⟩
      obtain ⟨zs, hzs, rfl⟩ := bind_pure_eq_ok_iff.mp rest
      exact ⟨y, zs, hy, ih.mp hzs, rfl⟩
    · rintro ⟨y, zs, hy, hzs, rfl⟩
      exact ⟨y, hy, bind_eq_ok_iff.mpr ⟨zs, ih.mpr hzs, rfl⟩⟩

theorem exists_forall₂ {α β : Type} {R : α → β → Prop} {xs : List α} (h : ∀ x ∈ xs, ∃ y, R x y) :
    ∃ ys, List.Forall₂ R xs ys := by
  induction xs with
  | nil => exact ⟨[], .nil⟩
  | cons x xs ih =>
    obtain ⟨y, hy⟩ := h x List.mem_cons_self
    obtain ⟨ys, hys⟩ := ih fun z hz => h z (List.mem_cons_of_mem x hz)
    exact ⟨y :: ys, .cons hy hys⟩

theorem exists_mapM {ε α β : Type} {f : α → Except ε β} {xs : List α}
    (h : ∀ x ∈ xs, ∃ y, f x = .ok y) : ∃ ys, xs.mapM f = .ok ys := by
  obtain ⟨ys, all⟩ := exists_forall₂ h
  exact ⟨ys, mapM_eq_ok_iff.mpr all⟩

/-! ## Faults -/

/-- The fault with which a computation ends, if it does. -/
def fault? {ε α : Type} : Except ε α → Option ε
  | .ok _ => none
  | .error fault => some fault

section Fault

variable {ε α β : Type} {x : Except ε α} {fault : ε}

theorem fault?_eq_some_iff : fault? x = some fault ↔ x = .error fault := by
  cases x <;> simp [fault?]

theorem fault?_eq_none_iff : fault? x = none ↔ ∃ a, x = .ok a := by
  cases x <;> simp [fault?]

theorem fault?_bind_of_ok {a : α} (h : x = .ok a) (f : α → Except ε β) :
    fault? (x >>= f) = fault? (f a) := by
  rw [h, ok_bind]

theorem fault?_bind_of_error (h : x = .error fault) (f : α → Except ε β) :
    fault? (x >>= f) = some fault := by
  rw [h, error_bind, fault?]

theorem fault?_bind_pure (x : Except ε α) (f : α → β) :
    fault? (x >>= fun a => pure (f a)) = fault? x := by
  cases x <;> rfl

/-- A step for each item ends with the fault of the first item that has one. -/
theorem fault?_mapM (f : α → Except ε β) (xs : List α) :
    fault? (xs.mapM f) = xs.findSome? fun x => fault? (f x) := by
  induction xs with
  | nil => rfl
  | cons x xs ih =>
    rw [List.mapM_cons, List.findSome?_cons]
    cases first : f x with
    | error fault => exact fault?_bind_of_error rfl _
    | ok y =>
      rw [fault?_bind_of_ok rfl, fault?_bind_pure, ih]
      rfl

end Fault

/-- A computation ends with no fault, or with one that meets a condition. -/
def FaultsAre {ε α : Type} (P : ε → Prop) (x : Except ε α) : Prop :=
  ∀ fault, x = .error fault → P fault

section FaultsAre

variable {ε δ α β : Type} {P : ε → Prop} {x : Except ε α}

theorem faultsAre_ok (a : α) : FaultsAre P (.ok a : Except ε α) := nofun

theorem faultsAre_error {fault : ε} (h : P fault) : FaultsAre P (.error fault : Except ε α) := by
  intro other same
  cases same
  exact h

theorem FaultsAre.bind {f : α → Except ε β} (first : FaultsAre P x)
    (then_ : ∀ a, x = .ok a → FaultsAre P (f a)) : FaultsAre P (x >>= f) := by
  cases x with
  | error fault => exact faultsAre_error (first fault rfl)
  | ok a => exact then_ a rfl

theorem FaultsAre.mapError {Q : δ → Prop} {f : ε → δ} (h : FaultsAre P x)
    (into : ∀ fault, P fault → Q (f fault)) : FaultsAre Q (x.mapError f) := by
  cases x with
  | error fault => exact faultsAre_error (into fault (h fault rfl))
  | ok a => exact faultsAre_ok a

theorem FaultsAre.mapM {f : α → Except ε β} {xs : List α} (h : ∀ x ∈ xs, FaultsAre P (f x)) :
    FaultsAre P (xs.mapM f) := by
  intro fault ends
  rw [← fault?_eq_some_iff, fault?_mapM] at ends
  obtain ⟨x, mem, found⟩ := List.exists_of_findSome?_eq_some ends
  exact h x mem fault (fault?_eq_some_iff.mp found)

end FaultsAre

/-! ## Lists side by side -/

theorem exists_mem_of_forall₂ {α β : Type} {R : α → β → Prop} {xs : List α} {ys : List β}
    (h : List.Forall₂ R xs ys) {x : α} (hx : x ∈ xs) : ∃ y ∈ ys, R x y := by
  obtain ⟨same, each⟩ := List.forall₂_iff_zip.mp h
  rw [← List.map_fst_zip (Nat.le_of_eq same)] at hx
  obtain ⟨⟨x, y⟩, pair, rfl⟩ := List.mem_map.mp hx
  exact ⟨y, (List.of_mem_zip pair).2, each pair⟩

section Zip

variable {α β : Type} {xs : List α} {ys : List β}

/-- What exists for each item of a list is put side by side with it. -/
theorem exists_zip {R : α → β → Prop} (h : ∀ x ∈ xs, ∃ y, R x y) :
    ∃ ys : List β, xs.length = ys.length ∧ ∀ x y, (x, y) ∈ xs.zip ys → R x y := by
  obtain ⟨ys, all⟩ := exists_forall₂ h
  obtain ⟨same, each⟩ := List.forall₂_iff_zip.mp all
  exact ⟨ys, same, fun x y => each⟩

theorem forall_of_zip_left {P : α → Prop} (same : xs.length = ys.length)
    (h : ∀ x y, (x, y) ∈ xs.zip ys → P x) : ∀ x ∈ xs, P x := by
  intro x hx
  rw [← List.map_fst_zip (Nat.le_of_eq same)] at hx
  obtain ⟨⟨x, y⟩, pair, rfl⟩ := List.mem_map.mp hx
  exact h x y pair

theorem forall_of_zip_right {P : β → Prop} (same : xs.length = ys.length)
    (h : ∀ x y, (x, y) ∈ xs.zip ys → P y) : ∀ y ∈ ys, P y := by
  intro y hy
  rw [← List.map_snd_zip (Nat.le_of_eq same.symm)] at hy
  obtain ⟨⟨x, y⟩, pair, rfl⟩ := List.mem_map.mp hy
  exact h x y pair

end Zip

end TermSheet

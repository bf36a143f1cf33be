import TermSheet.Contract.Settlement
import TermSheet.Proofs.Failure

/-!
# What a settlement is made of

A settlement of a composite contract is put together from settlements of its parts, and it exists
exactly when they do and no product overflows. The lemmas here say so once for each variant, and
once for each builder; nothing that follows opens `Contract.settle` again.

Results:
* `settle_multiple_eq_ok_iff`, `settle_give_eq_ok_iff`, `settle_both_eq_ok_iff`: the settlements of
  a composite contract.
* `settle_scale`, `settle_defer`, `settle_reverse`, `settle_join`: what a builder gives settles like
  the variant it stands for, faults included.
-/

namespace TermSheet

/-! ## Lists of results -/

section Lists

variable {α β γ : Type}

theorem exists_map_some_iff {l : List (Option α)} :
    (∃ xs : List α, xs.map some = l) ↔ ∀ o ∈ l, o.isSome := by
  constructor
  · rintro ⟨xs, rfl⟩ o ho
    obtain ⟨x, -, rfl⟩ := List.mem_map.mp ho
    rfl
  · intro h
    induction l with
    | nil => exact ⟨[], rfl⟩
    | cons o l ih =>
      obtain ⟨x, rfl⟩ := Option.isSome_iff_exists.mp (h o List.mem_cons_self)
      obtain ⟨xs, rfl⟩ := ih fun p hp => h p (List.mem_cons_of_mem _ hp)
      exact ⟨x :: xs, rfl⟩

theorem forall₂_eq_some_iff {f : α → Option β} {xs : List α} {ys : List β} :
    List.Forall₂ (fun x y => f x = some y) xs ys ↔ ys.map some = xs.map f := by
  rw [eq_comm, ← List.forall₂_eq_eq_eq, List.forall₂_map_left_iff, List.forall₂_map_right_iff]

/-- Two steps that may fail succeed on a whole list when the first does and then the second. -/
theorem map_some_eq_map_bind_iff {g : α → Option β} {h : β → Option γ} {xs : List α}
    {zs : List γ} :
    zs.map some = xs.map (fun x => (g x).bind h) ↔
      ∃ ys : List β, ys.map some = xs.map g ∧ zs.map some = ys.map h := by
  constructor
  · intro hz
    obtain ⟨ys, hys⟩ : ∃ ys : List β, ys.map some = xs.map g := by
      refine exists_map_some_iff.mpr fun o ho => ?_
      obtain ⟨x, hx, rfl⟩ := List.mem_map.mp ho
      have some_bind : ((g x).bind h).isSome :=
        exists_map_some_iff.mp ⟨zs, hz⟩ _ (List.mem_map_of_mem hx)
      exact Option.isSome_of_isSome_bind some_bind
    refine ⟨ys, hys, ?_⟩
    have both := congrArg (List.map (Option.bind · h)) hys
    rw [List.map_map, List.map_map] at both
    exact hz.trans both.symm
  · rintro ⟨ys, hys, hz⟩
    have both := congrArg (List.map (Option.bind · h)) hys
    rw [List.map_map, List.map_map] at both
    exact hz.trans both

/-- The results of a step that may fail are found by leaving the failures out. -/
theorem eq_filterMap_of_map_some_eq {f : α → Option β} {xs : List α} {ys : List β}
    (h : ys.map some = xs.map f) : ys = xs.filterMap f := by
  have found := congrArg (List.filterMap id) h
  simpa only [List.filterMap_map, Function.comp_def, id, List.filterMap_some] using found

end Lists

theorem Payment.scaledOrFault_eq_ok_iff {F : Type} {k : Amount} {p q : Payment} :
    p.scaledOrFault (F := F) k = .ok q ↔ p.scaled? k = some q := by
  unfold Payment.scaledOrFault
  split
  · next r h => rw [h, Except.ok.injEq, Option.some.injEq]
  · next h => simp [h]

theorem Settlement.eq_of_parts {F : Type} {s u : Settlement F} (hp : s.payments = u.payments)
    (hr : s.residual = u.residual) : s = u := by
  cases s
  cases u
  exact congrArg₂ Settlement.mk hp hr

namespace Contract

variable {F : Type} {t : Date} {s : Settlement F}

/-! ## Variants -/

theorem settle_multiple_eq_ok_iff {k : Amount} {c : Contract F} :
    (multiple k c).settle t = .ok s ↔
      ∃ r, c.settle t = .ok r ∧
        s.payments.map some = r.payments.map (·.scaled? k) ∧ s.residual = scale k r.residual := by
  rw [settle, bind_eq_ok_iff]
  refine exists_congr fun r => and_congr_right fun _ => ?_
  rw [bind_eq_ok_iff]
  simp only [mapM_eq_ok_iff, Payment.scaledOrFault_eq_ok_iff, forall₂_eq_some_iff]
  constructor
  · rintro ⟨ps, hps, h⟩
    cases h
    exact ⟨hps, rfl⟩
  · rintro ⟨hps, h⟩
    exact ⟨s.payments, hps, by rw [← h]; rfl⟩

theorem settle_give_eq_ok_iff {c : Contract F} :
    (give c).settle t = .ok s ↔
      ∃ r, c.settle t = .ok r ∧ s = ⟨r.payments.map Payment.inverted, reverse r.residual⟩ := by
  rw [settle, bind_eq_ok_iff]
  refine exists_congr fun r => and_congr_right fun _ => ?_
  exact ⟨fun h => by cases h; rfl, fun h => by rw [h]; rfl⟩

theorem settle_both_eq_ok_iff {a b : Contract F} :
    (both a b).settle t = .ok s ↔
      ∃ r u, a.settle t = .ok r ∧ b.settle t = .ok u ∧
        s = ⟨r.payments ++ u.payments, join r.residual u.residual⟩ := by
  rw [settle, bind_eq_ok_iff]
  constructor
  · rintro ⟨r, hr, rest⟩
    obtain ⟨u, hu, h⟩ := bind_eq_ok_iff.mp rest
    cases h
    exact ⟨r, u, hr, hu, rfl⟩
  · rintro ⟨r, u, hr, hu, rfl⟩
    exact ⟨r, hr, bind_eq_ok_iff.mpr ⟨u, hu, rfl⟩⟩

/-! ## Builders -/

theorem settle_zero (t : Date) : (zero : Contract F).settle t = .ok ⟨[], zero⟩ := rfl

/-- Unless its factor is zero or one, a scaled contract settles like the multiple. -/
theorem settle_scale {k : Amount} (hz : k.isZero = false) (ho : k.isOne = false)
    (c : Contract F) (t : Date) : (scale k c).settle t = (multiple k c).settle t :=
  apply_scale (settle t) hz ho rfl c

theorem settle_defer (d : Date) (c : Contract F) (t : Date) :
    (defer d c).settle t = if d ≤ t then c.settle t else .ok ⟨[], defer d c⟩ := by
  rcases defer_cases d c with rfl | ⟨-, h⟩
  · rw [defer_zero, settle_zero, ite_self]
  · rw [h, settle]

theorem settle_reverse (c : Contract F) (t : Date) :
    (reverse c).settle t = (give c).settle t :=
  apply_reverse (settle t) rfl c

theorem settle_join (a b : Contract F) (t : Date) :
    (join a b).settle t = (both a b).settle t := by
  apply apply_join (settle t)
  · intro b
    rw [settle, settle_zero]
    cases b.settle t <;> rfl
  · intro a
    rw [settle, settle_zero]
    cases a.settle t with
    | error fault => rfl
    | ok r => simp [bind, Except.bind, pure, Except.pure]

end Contract

end TermSheet

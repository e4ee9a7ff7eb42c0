import Mathlib.Data.List.Forall2
import Mathlib.Data.List.Perm.Basic

/-!
# Steps that may fail

A step that may fail gives a result exactly if all of its parts do. A list of such steps is
related, item by item, to the list of their results.
-/

namespace Scorecard

variable {ε α β γ : Type}

theorem bind_eq_ok_iff {x : Except ε α} {f : α → Except ε β} {b : β} :
    (x >>= f) = .ok b ↔ ∃ a, x = .ok a ∧ f a = .ok b := by
  cases x <;> simp [bind, Except.bind]

theorem map_eq_ok_iff {x : Except ε α} {f : α → β} {b : β} :
    x.map f = .ok b ↔ ∃ a, x = .ok a ∧ f a = b := by
  cases x <;> simp [Except.map]

theorem bind_eq_error_iff {x : Except ε α} {f : α → Except ε β} {e : ε} :
    (x >>= f) = .error e ↔ x = .error e ∨ ∃ a, x = .ok a ∧ f a = .error e := by
  cases x <;> simp [bind, Except.bind]

theorem exists_bind_eq_ok_iff {x : Except ε α} {f : α → Except ε β} :
    (∃ b, (x >>= f) = .ok b) ↔ ∃ a, x = .ok a ∧ ∃ b, f a = .ok b := by
  cases x <;> simp [bind, Except.bind]

theorem map_eq_error_iff {x : Except ε α} {f : α → β} {e : ε} :
    x.map f = .error e ↔ x = .error e := by
  cases x <;> simp [Except.map]

theorem exists_map_eq_ok_iff {x : Except ε α} {f : α → β} :
    (∃ b, x.map f = .ok b) ↔ ∃ a, x = .ok a := by
  cases x <;> simp [Except.map]

theorem exists_ok_iff_forall_ne_error {x : Except ε α} :
    (∃ a, x = .ok a) ↔ ∀ e, x ≠ .error e := by
  cases x <;> simp

theorem exists_eq_ok {x : Except ε α} (h : x.isOk = true) : ∃ a, x = .ok a := by
  cases x with
  | error e => simp [Except.isOk, Except.toBool] at h
  | ok a => exact ⟨a, rfl⟩

/-- Whether the result of a step has a property is told by the step. -/
instance decidableExistsOk {x : Except ε α} {p : α → Prop} [DecidablePred p] :
    Decidable (∃ a, x = .ok a ∧ p a) :=
  match x with
  | .ok a => decidable_of_iff (p a) (by simp)
  | .error _ => isFalse (by simp)

/-- A list of steps gives the list of their results. -/
theorem mapM_eq_ok_iff {f : α → Except ε β} {xs : List α} {ys : List β} :
    xs.mapM f = .ok ys ↔ List.Forall₂ (fun x y => f x = .ok y) xs ys := by
  induction xs generalizing ys with
  | nil =>
    rw [List.mapM_nil, List.forall₂_nil_left_iff]
    exact ⟨fun h => (Except.ok.inj h).symm, fun h => h ▸ rfl⟩
  | cons x xs ih =>
    rw [List.mapM_cons, List.forall₂_cons_left_iff, bind_eq_ok_iff]
    constructor
    · rintro ⟨y, hy, h⟩
      obtain ⟨zs, hzs, h⟩ := bind_eq_ok_iff.1 h
      obtain rfl := Except.ok.inj h
      exact ⟨y, zs, hy, ih.1 hzs, rfl⟩
    · rintro ⟨y, zs, hy, hzs, rfl⟩
      exact ⟨y, hy, bind_eq_ok_iff.2 ⟨zs, ih.2 hzs, rfl⟩⟩

/-- The first item of a list with a fault has this fault. -/
inductive FirstFault (fault : α → ε → Prop) : List α → ε → Prop
  /-- The first item has it. -/
  | here {x : α} {e : ε} (h : fault x e) (xs : List α) : FirstFault fault (x :: xs) e
  /-- The first item has none. -/
  | later {x : α} {xs : List α} {e : ε} (hx : ∀ e', ¬ fault x e') (h : FirstFault fault xs e) :
    FirstFault fault (x :: xs) e

theorem FirstFault.exists_mem {fault : α → ε → Prop} {xs : List α} {e : ε}
    (h : FirstFault fault xs e) : ∃ x ∈ xs, fault x e := by
  induction h with
  | here h xs => exact ⟨_, List.mem_cons_self, h⟩
  | later _ _ ih =>
    obtain ⟨y, hmem, hy⟩ := ih
    exact ⟨y, List.mem_cons_of_mem _ hmem, hy⟩

theorem exists_firstFault_iff {fault : α → ε → Prop} {xs : List α} :
    (∃ e, FirstFault fault xs e) ↔ ∃ x ∈ xs, ∃ e, fault x e := by
  constructor
  · rintro ⟨e, h⟩
    obtain ⟨x, hmem, hx⟩ := h.exists_mem
    exact ⟨x, hmem, e, hx⟩
  · intro h
    induction xs with
    | nil =>
      obtain ⟨x, hmem, -⟩ := h
      cases hmem
    | cons x xs ih =>
      by_cases hx : ∃ e, fault x e
      · obtain ⟨e, he⟩ := hx
        exact ⟨e, .here he xs⟩
      · have hrest := ((List.exists_mem_cons_iff _ _ _).1 h).resolve_left hx
        obtain ⟨e, he⟩ := ih hrest
        exact ⟨e, .later (not_exists.1 hx) he⟩

theorem firstFault_map_iff {fault : α → ε → Prop} {g : γ → α} {xs : List γ} {e : ε} :
    FirstFault fault (xs.map g) e ↔ FirstFault (fun x => fault (g x)) xs e := by
  induction xs with
  | nil =>
    constructor
    · intro h
      cases h
    · intro h
      cases h
  | cons x xs ih =>
    rw [List.map_cons]
    constructor
    · intro h
      cases h with
      | here h =>
        refine .here ?_ xs
        exact h
      | later hx h =>
        refine .later ?_ (ih.1 h)
        exact hx
    · intro h
      cases h with
      | here h => exact .here h _
      | later hx h => exact .later hx (ih.2 h)

/-- A list of steps fails with the first step that fails. -/
theorem mapM_eq_error_iff {f : α → Except ε β} {fault : α → ε → Prop}
    (h : ∀ x e, f x = .error e ↔ fault x e) {xs : List α} {e : ε} :
    xs.mapM f = .error e ↔ FirstFault fault xs e := by
  induction xs with
  | nil =>
    constructor
    · intro hnil
      cases hnil
    · intro hnil
      cases hnil
  | cons x xs ih =>
    rw [List.mapM_cons, bind_eq_error_iff, h]
    constructor
    · rintro (hx | ⟨b, hb, hxs⟩)
      · exact .here hx xs
      · have hx : ∀ e', ¬ fault x e' := by
          intro e' hx
          rw [(h x e').2 hx] at hb
          cases hb
        obtain hxs | ⟨ys, -, hys⟩ := bind_eq_error_iff.1 hxs
        · exact .later hx (ih.1 hxs)
        · cases hys
    · intro hfirst
      cases hfirst with
      | here hx => exact .inl hx
      | later hx hxs =>
        obtain ⟨b, hb⟩ := exists_ok_iff_forall_ne_error.2 fun e' he => hx e' ((h x e').1 he)
        exact .inr ⟨b, hb, bind_eq_error_iff.2 (.inl (ih.2 hxs))⟩

theorem exists_of_mapM_eq_ok {f : α → Except ε β} {xs : List α} {ys : List β}
    (h : xs.mapM f = .ok ys) {x : α} (hx : x ∈ xs) : ∃ y, f x = .ok y := by
  obtain ⟨i, hi, rfl⟩ := List.mem_iff_getElem.1 hx
  have hforall := mapM_eq_ok_iff.1 h
  exact ⟨_, hforall.get hi (hforall.length_eq ▸ hi)⟩

theorem mem_iff_of_mapM_eq_ok {f : α → Except ε β} {xs : List α} {ys : List β}
    (h : xs.mapM f = .ok ys) {y : β} : y ∈ ys ↔ ∃ x ∈ xs, f x = .ok y := by
  have hforall := mapM_eq_ok_iff.1 h
  clear h
  induction hforall with
  | nil => simp
  | @cons x z xs ys hxz _ ih =>
    have hhead : y = z ↔ f x = .ok y := by
      rw [hxz, Except.ok.injEq]
      exact eq_comm
    rw [List.mem_cons, List.exists_mem_cons_iff]
    exact or_congr hhead ih

/-- Steps that each give a result give a list of results. -/
theorem exists_mapM_eq_ok {f : α → Except ε β} {xs : List α} (h : ∀ x ∈ xs, ∃ y, f x = .ok y) :
    ∃ ys, xs.mapM f = .ok ys := by
  induction xs with
  | nil => exact ⟨[], rfl⟩
  | cons x xs ih =>
    obtain ⟨⟨y, hy⟩, hxs⟩ := List.forall_mem_cons.1 h
    obtain ⟨ys, hys⟩ := ih hxs
    exact ⟨y :: ys, mapM_eq_ok_iff.2 (.cons hy (mapM_eq_ok_iff.1 hys))⟩

/-- Steps that all fail for the same reason fail together if one of them does. -/
theorem mapM_eq_error_iff_exists {f : α → Except ε β} {xs : List α} {reason : ε}
    (h : ∀ x ∈ xs, ∀ e, f x = .error e → e = reason) {e : ε} :
    xs.mapM f = .error e ↔ ∃ x ∈ xs, f x = .error e := by
  rw [mapM_eq_error_iff fun x e => Iff.rfl]
  constructor
  · intro hfirst
    exact hfirst.exists_mem
  · rintro ⟨x, hmem, hx⟩
    obtain ⟨e', hfirst⟩ : ∃ e', FirstFault (fun x e => f x = .error e) xs e' :=
      exists_firstFault_iff.2 ⟨x, hmem, e, hx⟩
    obtain ⟨y, hy, hfault⟩ := hfirst.exists_mem
    rw [h x hmem e hx, ← h y hy e' hfault]
    exact hfirst

/-- Steps in another order give the same results in another order. -/
theorem mapM_perm {f : α → Except ε β} {xs xs' : List α} {ys : List β} (h : xs.Perm xs')
    (hys : xs.mapM f = .ok ys) : ∃ ys', xs'.mapM f = .ok ys' ∧ ys.Perm ys' := by
  obtain ⟨ys', hys', hperm⟩ := List.perm_comp_forall₂ h.symm (mapM_eq_ok_iff.1 hys)
  exact ⟨ys', mapM_eq_ok_iff.2 hys', hperm.symm⟩

/-- Steps on related items whose results are related give related lists of results. -/
theorem mapM_forall₂ {R : α → β → Prop} {S : γ → γ → Prop} {f : α → Except ε γ}
    {g : β → Except ε γ} {xs : List α} {ys : List β} {zs : List γ} (h : List.Forall₂ R xs ys)
    (hstep : ∀ x y z, R x y → f x = .ok z → ∃ w, g y = .ok w ∧ S z w)
    (hzs : xs.mapM f = .ok zs) : ∃ ws, ys.mapM g = .ok ws ∧ List.Forall₂ S zs ws := by
  simp only [mapM_eq_ok_iff] at *
  induction h generalizing zs with
  | nil =>
    cases hzs
    exact ⟨[], .nil, .nil⟩
  | @cons x y xs ys hxy h ih =>
    cases hzs with
    | cons hz hzs =>
      obtain ⟨w, hw, hzw⟩ := hstep x y _ hxy hz
      obtain ⟨ws, hws, hzws⟩ := ih hzs
      exact ⟨w :: ws, .cons hw hws, .cons hzw hzws⟩

/-- Related items whose views are related give related lists of views. -/
theorem forall₂_filterMap {δ : Type} {R : α → β → Prop} {S : γ → δ → Prop} {xs : List α}
    {ys : List β} {f : α → Option γ} {g : β → Option δ} (h : List.Forall₂ R xs ys)
    (hview : ∀ x y, R x y → Option.Rel S (f x) (g y)) :
    List.Forall₂ S (xs.filterMap f) (ys.filterMap g) := by
  induction h with
  | nil => exact .nil
  | @cons x y _ _ hxy _ ih =>
    rw [List.filterMap_cons, List.filterMap_cons]
    have hS := hview x y hxy
    generalize f x = a at hS ⊢
    generalize g y = b at hS ⊢
    cases hS with
    | none => exact ih
    | some hS => exact .cons hS ih

/-- A view of related items that does not tell them apart shows the same of related lists. -/
theorem filterMap_congr_forall₂ {R : α → β → Prop} {xs : List α} {ys : List β} {f : α → Option γ}
    {g : β → Option γ} (h : List.Forall₂ R xs ys) (hview : ∀ x y, R x y → f x = g y) :
    xs.filterMap f = ys.filterMap g := by
  induction h with
  | nil => rfl
  | cons hxy _ ih => rw [List.filterMap_cons, List.filterMap_cons, hview _ _ hxy, ih]

/-- Related lists are related item by item, and their items are at the same places. -/
theorem forall₂_with_zip {R : α → β → Prop} {xs : List α} {ys : List β} (h : List.Forall₂ R xs ys) :
    List.Forall₂ (fun x y => (x, y) ∈ xs.zip ys ∧ R x y) xs ys :=
  List.forall₂_iff_zip.2 ⟨h.length_eq, fun hmem => ⟨hmem, List.forall₂_zip h hmem⟩⟩

/-- What is related to two lists one after the other falls into two parts. -/
theorem forall₂_append_left {R : α → β → Prop} {xs xs' : List α} {ys : List β}
    (h : List.Forall₂ R (xs ++ xs') ys) :
    ∃ zs zs', ys = zs ++ zs' ∧ List.Forall₂ R xs zs ∧ List.Forall₂ R xs' zs' := by
  induction xs generalizing ys with
  | nil => exact ⟨[], ys, rfl, .nil, h⟩
  | cons x xs ih =>
    rw [List.cons_append] at h
    cases h with
    | cons hx h =>
      obtain ⟨zs, zs', rfl, hzs, hzs'⟩ := ih h
      exact ⟨_ :: zs, zs', rfl, .cons hx hzs, hzs'⟩

/-- What related items take over from each other holds of all items of a related list. -/
theorem forall_mem_of_forall₂ {R : α → β → Prop} {P : α → Prop} {Q : β → Prop} {xs : List α}
    {ys : List β} (h : List.Forall₂ R xs ys) (hP : ∀ x ∈ xs, P x)
    (hstep : ∀ x y, R x y → P x → Q y) : ∀ y ∈ ys, Q y := by
  induction h with
  | nil => simp
  | cons hxy _ ih =>
    obtain ⟨hx, hxs⟩ := List.forall_mem_cons.1 hP
    exact List.forall_mem_cons.2 ⟨hstep _ _ hxy hx, ih hxs⟩

/-! ## Results in any order -/

/-- A list has, in some order, what is related to the items of another list: one result for each
item that something is related to, and none for the others. -/
def Gathers (R : α → β → Prop) (xs : List α) (ys : List β) : Prop :=
  ∃ given others, xs.Perm (given ++ others) ∧ List.Forall₂ R given ys ∧
    ∀ x ∈ others, ∀ y, ¬ R x y

namespace Gathers

variable {R : α → β → Prop} {xs : List α} {ys ys' : List β}

theorem perm (h : Gathers R xs ys) (hperm : ys.Perm ys') : Gathers R xs ys' := by
  obtain ⟨given, others, hxs, hgiven, hothers⟩ := h
  obtain ⟨given', hgiven', hperm'⟩ := List.perm_comp_forall₂ hperm.symm hgiven.flip
  refine ⟨given', others, hxs.trans ?_, hgiven'.flip, hothers⟩
  exact hperm'.symm.append_right others

/-- Where at most one result is related to an item, there is only one way to gather the results. -/
theorem perm_of_rightUnique (hR : Relator.RightUnique R) (h : Gathers R xs ys)
    (h' : Gathers R xs ys') : ys.Perm ys' := by
  classical
  have hfilter {zs : List β} {given others : List α} (hxs : xs.Perm (given ++ others))
      (hgiven : List.Forall₂ R given zs) (hothers : ∀ x ∈ others, ∀ y, ¬ R x y) :
      given.Perm (xs.filter fun x => ∃ y, R x y) := by
    have hkept : given.filter (fun x => ∃ y, R x y) = given := by
      rw [List.filter_eq_self]
      intro x hx
      obtain ⟨i, hi, rfl⟩ := List.mem_iff_getElem.1 hx
      exact decide_eq_true ⟨_, hgiven.get hi (hgiven.length_eq ▸ hi)⟩
    have hleft : others.filter (fun x => ∃ y, R x y) = [] := by
      rw [List.filter_eq_nil_iff]
      intro x hx
      simpa using hothers x hx
    have hall := hxs.filter fun x => ∃ y, R x y
    rw [List.filter_append, hkept, hleft, List.append_nil] at hall
    exact hall.symm
  obtain ⟨given, others, hxs, hgiven, hothers⟩ := h
  obtain ⟨given', others', hxs', hgiven', hothers'⟩ := h'
  exact List.rel_perm_imp hR hgiven hgiven'
    ((hfilter hxs hgiven hothers).trans (hfilter hxs' hgiven' hothers').symm)

theorem forall_mem {Q : β → Prop} (h : Gathers R xs ys) (hQ : ∀ x y, R x y → Q y) :
    ∀ y ∈ ys, Q y := by
  obtain ⟨given, others, -, hgiven, -⟩ := h
  exact forall_mem_of_forall₂ (P := fun _ => True) hgiven (by simp) fun x y hxy _ => hQ x y hxy

theorem of_forall₂ {views : List (Option β)}
    (h : List.Forall₂ (fun x view => ∀ y, view = some y ↔ R x y) xs views) :
    Gathers R xs (views.filterMap id) := by
  induction h with
  | nil => exact ⟨[], [], .refl [], .nil, by simp⟩
  | @cons x view xs views hx _ ih =>
    obtain ⟨given, others, hxs, hgiven, hothers⟩ := ih
    cases view with
    | none =>
      refine ⟨given, x :: others, (hxs.cons x).trans List.perm_middle.symm, hgiven, ?_⟩
      rw [List.forall_mem_cons]
      refine ⟨fun y hy => ?_, hothers⟩
      cases (hx y).2 hy
    | some y => exact ⟨x :: given, others, hxs.cons x, .cons ((hx y).1 rfl) hgiven, hothers⟩

end Gathers

end Scorecard
